import Remit.Proofs.Transaction.Equality
import Remit.Proofs.Transaction.Looking
import Remit.Proofs.Wire.Shortest

/-!
# Canonical bytes

A transaction that was read and is made anew from what it holds is written with every size in its shortest form, whatever
forms were read. These are its canonical bytes. They are read as an equal transaction, they are their own canonical
bytes, and they are fewer than the bytes that were read unless they are the same: each size becomes shorter or stays as
it is, and so does all that is made of sizes.
-/

namespace Remit

open Wire

/-! ## Shortening -/

namespace Wire

namespace Counted

variable {α : Type} {shorten : α → α} {code : α → Bytes}

theorem shortens (h : Shortens shorten code) : Shortens (shortened shorten) (bytes code) := by
  intro c
  rw [bytes, bytes, List.length_append, List.length_append]
  have hs := Size.shortens.length_le c.size
  have hi := h.flatMap.length_le c.items
  change _ ∨ c.size.shortened.bytes.length + ((c.items.map shorten).flatMap code).length < _
  obtain hs' | hs' := Size.shortens c.size
  · obtain hi' | hi' := h.flatMap c.items
    · exact .inl (Counted.ext hs' hi')
    · exact .inr (by omega)
  · exact .inr (by omega)

theorem shortened_eq_self_iff {c : Counted α} :
    c.shortened shorten = c ↔ c.size.IsShortest ∧ ∀ a ∈ c.items, shorten a = a := by
  rw [Counted.ext_iff, ← Size.shortened_eq_self_iff]
  refine and_congr_right fun _ => ?_
  change c.items.map shorten = c.items ↔ _
  rw [← List.map_inj_left, List.map_id']

end Counted

end Wire

namespace Transaction

theorem InputLayout.shortens : Shortens InputLayout.shortened InputLayout.bytes := by
  intro l
  simp only [InputLayout.bytes, List.length_append, Word.length_bytes]
  obtain h | h := Sized.shortens l.script
  · exact .inl (InputLayout.ext rfl rfl h rfl)
  · refine .inr ?_
    change l.hash.length + (4 + (l.script.shortened.bytes.length + 4)) < _
    omega

theorem InputLayout.shortened_eq_self_iff {l : InputLayout} : l.shortened = l ↔ l.script.size.IsShortest := by
  rw [InputLayout.ext_iff, ← Sized.shortened_eq_self_iff]
  exact ⟨fun h => h.2.2.1, fun h => ⟨rfl, rfl, h, rfl⟩⟩

theorem OutputLayout.shortens : Shortens OutputLayout.shortened OutputLayout.bytes := by
  intro l
  rw [OutputLayout.bytes, OutputLayout.bytes, List.length_append, List.length_append]
  obtain h | h := Sized.shortens l.script
  · exact .inl (OutputLayout.ext rfl h)
  · exact .inr (Nat.add_lt_add_left h _)

theorem OutputLayout.shortened_eq_self_iff {l : OutputLayout} : l.shortened = l ↔ l.script.size.IsShortest := by
  rw [OutputLayout.ext_iff, ← Sized.shortened_eq_self_iff]
  exact and_iff_right rfl

namespace Layout

/-- All sizes in a transaction: the two numbers of items, and the length of every script. -/
def sizes (l : Layout) : List Size :=
  l.inputs.size :: l.inputs.items.map (fun i => i.script.size) ++
    l.outputs.size :: l.outputs.items.map fun o => o.script.size

theorem shortens : Shortens shortened bytes := by
  intro l
  have hi := (Counted.shortens InputLayout.shortens).length_le l.inputs
  have ho := (Counted.shortens OutputLayout.shortens).length_le l.outputs
  simp only [bytes, List.length_append, Word.length_bytes]
  change _ ∨ 4 + (((l.inputs.shortened InputLayout.shortened).bytes InputLayout.bytes).length +
    (((l.outputs.shortened OutputLayout.shortened).bytes OutputLayout.bytes).length + 4)) < _
  obtain hi' | hi' := Counted.shortens InputLayout.shortens l.inputs
  · obtain ho' | ho' := Counted.shortens OutputLayout.shortens l.outputs
    · exact .inl (Layout.ext rfl hi' ho' rfl)
    · exact .inr (by omega)
  · exact .inr (by omega)

theorem shortened_eq_self_iff {l : Layout} : l.shortened = l ↔ ∀ s ∈ l.sizes, s.IsShortest := by
  have h : l.shortened = l ↔ l.inputs.shortened InputLayout.shortened = l.inputs ∧
      l.outputs.shortened OutputLayout.shortened = l.outputs := by
    rw [Layout.ext_iff]
    exact ⟨fun h => ⟨h.2.1, h.2.2.1⟩, fun h => ⟨rfl, h.1, h.2, rfl⟩⟩
  simp only [h, Counted.shortened_eq_self_iff, InputLayout.shortened_eq_self_iff, OutputLayout.shortened_eq_self_iff,
    sizes, List.forall_mem_append, List.forall_mem_cons, List.forall_mem_map]

@[simp] theorem shortened_shortened (l : Layout) : l.shortened.shortened = l.shortened := by
  simp only [shortened, Counted.shortened, List.map_map]
  rfl

end Layout

/-! ## Canonical bytes -/

/-- A new transaction with the version and the lock time of another, to which its inputs and outputs are added. -/
def rebuilt (tx : Transaction) : Transaction :=
  (({ version := tx.version, locktime := tx.locktime } : Transaction).addInputs tx.inputs).addOutputs tx.outputs

/-- What is written of the transaction that bytes hold when it is made anew. -/
def canonical (raw : Bytes) : Except Error Bytes := do
  let tx ← ofBytes raw
  let (bytes, _) ← tx.rebuilt.raw
  return bytes

theorem canonical_bytes (l : Layout) : canonical l.bytes = .ok l.shortened.bytes := by
  have hk : l.transaction.rebuilt.known = .ok l.shortened.bytes := by
    change l.contents.draft.toExcept = _
    rw [l.draft_contents]
    rfl
  rw [canonical, ofBytes_eq_ok.mpr ⟨l, rfl, rfl⟩]
  change (l.transaction.rebuilt.raw >>= _) = _
  rw [raw_eq, hk]
  rfl

/-- Bytes that hold a transaction have canonical bytes. These hold an equal transaction and are their own canonical
bytes. They are no more than the bytes they come from, and the same just if they are as many, which is so just if every
size that was read has its shortest form. -/
theorem canonical_shortens_sizes {raw : Bytes} {tx : Transaction} (h : ofBytes raw = .ok tx) :
    ∃ c, canonical raw = .ok c ∧ (∃ t, ofBytes c = .ok t ∧ (t == tx) = true ∧ t.toContents = tx.toContents) ∧
      canonical c = .ok c ∧ c.length ≤ raw.length ∧ (c = raw ↔ c.length = raw.length) ∧
      ∃ l : Layout, l.bytes = raw ∧ (∀ l' : Layout, l'.bytes = raw → l' = l) ∧
        (c = raw ↔ ∀ s ∈ l.sizes, s.IsShortest) := by
  obtain ⟨l, rfl, rfl⟩ := ofBytes_eq_ok.mp h
  have hraw : l.shortened.bytes = l.bytes ↔ l.shortened = l := Layout.bytes_injective.eq_iff
  have heq : (l.shortened.contents == l.contents) = true := by
    rw [Contents.beq_iff_plain_eq l.shortened.isFinished_draft_contents l.isFinished_draft_contents,
      l.contents_shortened]
  refine ⟨l.shortened.bytes, canonical_bytes l, ?_, ?_, Layout.shortens.length_le l, ?_, l, rfl, ?_, ?_⟩
  · exact ⟨l.shortened.transaction, ofBytes_eq_ok.mpr ⟨_, rfl, rfl⟩, heq, l.contents_shortened⟩
  · rw [canonical_bytes, l.shortened_shortened]
  · exact hraw.trans Layout.shortens.eq_self_iff
  · exact fun l' hl' => Layout.bytes_injective hl'
  · exact hraw.trans Layout.shortened_eq_self_iff

/-- No inputs, counted in three bytes, and an output whose script has its length in five: six bytes are saved. -/
theorem canonical_shortens_sizes_long :
    ∃ tx c, ofBytes [1, 0, 0, 0, 253, 0, 0, 1, 5, 0, 0, 0, 0, 0, 0, 0, 254, 1, 0, 0, 0, 81, 0, 0, 0, 0] = .ok tx ∧
      canonical [1, 0, 0, 0, 253, 0, 0, 1, 5, 0, 0, 0, 0, 0, 0, 0, 254, 1, 0, 0, 0, 81, 0, 0, 0, 0] = .ok c ∧
      c = [1, 0, 0, 0, 0, 1, 5, 0, 0, 0, 0, 0, 0, 0, 1, 81, 0, 0, 0, 0] ∧ canonical c = .ok c := by
  let l : Layout :=
    ⟨⟨1, by decide⟩, ⟨⟨0, .three, by decide⟩, [], rfl⟩,
      ⟨⟨1, .one, by decide⟩, [⟨⟨5, by decide⟩, ⟨⟨1, .five, by decide⟩, [81], rfl⟩⟩], rfl⟩, ⟨0, by decide⟩⟩
  have hl : ofBytes l.bytes = .ok l.transaction := ofBytes_eq_ok.mpr ⟨l, rfl, rfl⟩
  have hc := canonical_bytes l
  have hb : l.bytes = [1, 0, 0, 0, 253, 0, 0, 1, 5, 0, 0, 0, 0, 0, 0, 0, 254, 1, 0, 0, 0, 81, 0, 0, 0, 0] := by decide
  rw [hb] at hl hc
  obtain ⟨c, hc', -, hcc, -⟩ := canonical_shortens_sizes hl
  obtain rfl : c = l.shortened.bytes := Except.ok.inj (hc'.symm.trans hc)
  exact ⟨l.transaction, _, hl, hc, by decide, hcc⟩

end Transaction

end Remit
