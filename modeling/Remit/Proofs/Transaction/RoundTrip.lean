import Mathlib.Data.Set.List
import Remit.Proofs.Transaction.Equality
import Remit.Proofs.Transaction.Looking
import Remit.Proofs.Transaction.Reading

/-!
# Writing and reading back

A transaction of bytes and whole numbers can be written if and only if all its numbers fit. What is written is read back
as the same transaction if and only if the hashes have 32 bytes each: nothing looks at that when they are written, but
32 bytes is what is read.
-/

namespace Remit.Transaction

open Wire

/-! ## Fields -/

/-- The fields of an input, if they are bytes and whole numbers as they should be. -/
structure InputFields where
  hash : Bytes
  position : Int
  script : Bytes
  sequence : Int

namespace InputFields

/-- The input that has these fields. -/
def input (f : InputFields) : Input := ⟨.bytes f.hash, .int f.position, .bytes f.script, .int f.sequence⟩

/-- Do the numbers fit? -/
def Fits (f : InputFields) : Prop := (0 ≤ f.position ∧ f.position < 2 ^ 32) ∧ 0 ≤ f.sequence ∧ f.sequence < 2 ^ 32

theorem isFinished_draft {f : InputFields} (h : f.script.length < 2 ^ 64) : f.input.draft.IsFinished ↔ f.Fits := by
  simp only [Input.draft, input, Draft.isFinished_append, Draft.raw_bytes, Draft.isFinished_of, true_and,
    Draft.isFinished_word_int, Draft.isFinished_varBytes_bytes, Fits]
  omega

theorem exists_layout {f : InputFields} (h : f.script.length < 2 ^ 64) (hf : f.Fits) (hh : f.hash.length = 32) :
    ∃ l : InputLayout, l.input = f.input := by
  obtain ⟨⟨hp₀, hp⟩, hs₀, hs⟩ := hf
  obtain ⟨p, hp'⟩ := Int.eq_ofNat_of_zero_le hp₀
  obtain ⟨s, hs'⟩ := Int.eq_ofNat_of_zero_le hs₀
  refine ⟨⟨f.hash, ⟨p, by omega⟩, .ofBytes f.script h, ⟨s, by omega⟩, hh⟩, ?_⟩
  rw [input, hp', hs']
  rfl

end InputFields

/-- The fields of an output, if they are a whole number and bytes as they should be. -/
structure OutputFields where
  amount : Int
  script : Bytes

namespace OutputFields

/-- The output that has these fields. -/
def output (f : OutputFields) : Output := ⟨.int f.amount, .bytes f.script⟩

/-- Does the number fit? -/
def Fits (f : OutputFields) : Prop := 0 ≤ f.amount ∧ f.amount < 2 ^ 64

theorem isFinished_draft {f : OutputFields} (h : f.script.length < 2 ^ 64) : f.output.draft.IsFinished ↔ f.Fits := by
  simp only [Output.draft, output, Draft.isFinished_append, Draft.isFinished_word_int,
    Draft.isFinished_varBytes_bytes, Fits]
  omega

theorem exists_layout {f : OutputFields} (h : f.script.length < 2 ^ 64) (hf : f.Fits) :
    ∃ l : OutputLayout, l.output = f.output := by
  obtain ⟨a, ha⟩ := Int.eq_ofNat_of_zero_le hf.1
  have hlt := hf.2
  refine ⟨⟨⟨a, by omega⟩, .ofBytes f.script h⟩, ?_⟩
  rw [output, ha]
  rfl

end OutputFields

/-! ## Transactions -/

/-- A new transaction, with inputs and outputs added. -/
def assembled (version locktime : Int) (inputs : List InputFields) (outputs : List OutputFields) : Transaction :=
  (({ version := .int version, locktime := .int locktime } : Transaction).addInputs
    (inputs.map InputFields.input)).addOutputs (outputs.map OutputFields.output)

theorem exists_map_eq {α β : Type} {f : α → β} {bs : List β} (h : ∀ b ∈ bs, ∃ a, f a = b) :
    ∃ as : List α, as.map f = bs := by
  change bs ∈ Set.range (List.map f)
  rw [Set.range_list_map]
  exact h

/-- Do all the numbers fit? -/
def NumbersFit (version locktime : Int) (inputs : List InputFields) (outputs : List OutputFields) : Prop :=
  (0 ≤ version ∧ version < 2 ^ 32) ∧ (0 ≤ locktime ∧ locktime < 2 ^ 32) ∧
    (∀ f ∈ inputs, f.Fits) ∧ ∀ f ∈ outputs, f.Fits

section

variable {version locktime : Int} {inputs : List InputFields} {outputs : List OutputFields}

theorem known_assembled : (assembled version locktime inputs outputs).known =
    (assembled version locktime inputs outputs).draft.toExcept := rfl

theorem raw_assembled {raw : Bytes} {tx : Transaction}
    (h : (assembled version locktime inputs outputs).raw = .ok (raw, tx)) :
    (assembled version locktime inputs outputs).draft.toExcept = .ok raw ∧
      tx = { assembled version locktime inputs outputs with kept? := some raw } := by
  rw [raw_eq, known_assembled] at h
  cases hd : (assembled version locktime inputs outputs).draft.toExcept with
  | error e =>
    rw [hd] at h
    cases h
  | ok raw' =>
    rw [hd] at h
    cases h
    exact ⟨rfl, rfl⟩

@[simp] theorem plain_assembled : (assembled version locktime inputs outputs).plain =
    (assembled version locktime inputs outputs).toContents := by
  have hi : Input.plain ∘ InputFields.input = InputFields.input := rfl
  have ho : Output.plain ∘ OutputFields.output = OutputFields.output := rfl
  simp only [assembled, addInputs, addOutputs, Contents.plain, List.nil_append, List.map_map, hi, ho]
  rfl

/-- What was read is equal to what was assembled if it is the same. -/
theorem contents_beq_assembled {l : Layout} (h : (assembled version locktime inputs outputs).draft.IsFinished) :
    (l.contents == (assembled version locktime inputs outputs).toContents) = true ↔
      l.contents = (assembled version locktime inputs outputs).toContents := by
  rw [Contents.beq_iff_plain_eq l.isFinished_draft_contents h, l.plain_contents, plain_assembled]

/-- Hashes that were read have 32 bytes. -/
theorem length_hash_of_contents_eq {l : Layout}
    (h : l.contents = (assembled version locktime inputs outputs).toContents) : ∀ f ∈ inputs, f.hash.length = 32 := by
  have hi : l.inputs.items.map InputLayout.input = inputs.map InputFields.input := congrArg Contents.inputs h
  intro f hf
  obtain ⟨k, -, hk⟩ := List.mem_map.mp (hi ▸ List.mem_map_of_mem hf : f.input ∈ l.inputs.items.map InputLayout.input)
  have hh : k.hash = f.hash := Value.bytes.inj (congrArg Input.hash hk)
  rw [← hh, k.length_hash]

variable (hi : inputs.length < 2 ^ 64) (ho : outputs.length < 2 ^ 64)
  (hsi : ∀ f ∈ inputs, f.script.length < 2 ^ 64) (hso : ∀ f ∈ outputs, f.script.length < 2 ^ 64)

include hi ho hsi hso

theorem isFinished_draft_assembled :
    (assembled version locktime inputs outputs).draft.IsFinished ↔ NumbersFit version locktime inputs outputs := by
  have hi' : (∀ f ∈ inputs, f.input.draft.IsFinished) ↔ ∀ f ∈ inputs, f.Fits :=
    forall₂_congr fun f hf => InputFields.isFinished_draft (hsi f hf)
  have ho' : (∀ f ∈ outputs, f.output.draft.IsFinished) ↔ ∀ f ∈ outputs, f.Fits :=
    forall₂_congr fun f hf => OutputFields.isFinished_draft (hso f hf)
  have hp : (256 : Int) ^ 4 = 2 ^ 32 := by decide
  simp only [assembled, addInputs, addOutputs, Contents.draft, List.nil_append, Draft.isFinished_append,
    Draft.isFinished_word_int, Draft.isFinished_compactSize, Draft.isFinished_concat, List.forall_mem_map,
    List.length_map, hi', ho', hp, NumbersFit]
  constructor
  · rintro ⟨⟨⟨hv, -, hfi⟩, -, hfo⟩, hl⟩
    exact ⟨hv, hl, hfi, hfo⟩
  · rintro ⟨hv, hl, hfi, hfo⟩
    exact ⟨⟨⟨hv, hi, hfi⟩, ho, hfo⟩, hl⟩

/-- What fits, with hashes of 32 bytes, is what some layout holds. -/
theorem exists_layout_assembled (h : NumbersFit version locktime inputs outputs)
    (hh : ∀ f ∈ inputs, f.hash.length = 32) :
    ∃ l : Layout, l.contents = (assembled version locktime inputs outputs).toContents := by
  obtain ⟨⟨hv₀, hv⟩, ⟨hl₀, hl⟩, hfi, hfo⟩ := h
  obtain ⟨v, rfl⟩ := Int.eq_ofNat_of_zero_le hv₀
  obtain ⟨k, rfl⟩ := Int.eq_ofNat_of_zero_le hl₀
  obtain ⟨is, his⟩ := exists_map_eq fun i hi => by
    obtain ⟨f, hf, rfl⟩ := List.mem_map.mp hi
    exact InputFields.exists_layout (hsi f hf) (hfi f hf) (hh f hf)
  obtain ⟨os, hos⟩ := exists_map_eq fun o ho => by
    obtain ⟨f, hf, rfl⟩ := List.mem_map.mp ho
    exact OutputFields.exists_layout (hso f hf) (hfo f hf)
  have hli : is.length = inputs.length := by simpa using congrArg List.length his
  have hlo : os.length = outputs.length := by simpa using congrArg List.length hos
  refine ⟨⟨⟨v, by omega⟩, .ofList is (by omega), .ofList os (by omega), ⟨k, by omega⟩⟩, ?_⟩
  simp only [Layout.contents, Counted.ofList, his, hos]
  rfl

end

/-- A transaction of bytes and whole numbers, with lists and scripts that can be counted, is written if and only if its
numbers fit. Then its bytes are read as an equal transaction if and only if every hash has 32 bytes, and that one
holds the same, keeps the same bytes and has the same name. -/
theorem raw_then_ofBytes (version locktime : Int) (inputs : List InputFields) (outputs : List OutputFields)
    (hi : inputs.length < 2 ^ 64) (ho : outputs.length < 2 ^ 64)
    (hsi : ∀ f ∈ inputs, f.script.length < 2 ^ 64) (hso : ∀ f ∈ outputs, f.script.length < 2 ^ 64) :
    ((∃ raw tx, (assembled version locktime inputs outputs).raw = .ok (raw, tx)) ↔
        NumbersFit version locktime inputs outputs) ∧
      ∀ raw tx, (assembled version locktime inputs outputs).raw = .ok (raw, tx) →
        ((∃ t, ofBytes raw = .ok t ∧ (t == tx) = true) ↔ ∀ f ∈ inputs, f.hash.length = 32) ∧
        ((∀ f ∈ inputs, f.hash.length = 32) →
          ∃ t, ofBytes raw = .ok t ∧ t.toContents = tx.toContents ∧
            ∀ view, (t.perform (.view view)).1 = (tx.perform (.view view)).1) := by
  have hn : (assembled version locktime inputs outputs).draft.IsFinished ↔
      NumbersFit version locktime inputs outputs := isFinished_draft_assembled hi ho hsi hso
  constructor
  · rw [← hn, ← Draft.exists_toExcept_eq_ok]
    constructor
    · rintro ⟨raw, tx, h⟩
      exact ⟨raw, (raw_assembled h).1⟩
    · rintro ⟨raw, h⟩
      refine ⟨raw, { assembled version locktime inputs outputs with kept? := some raw }, ?_⟩
      rw [raw_eq, known_assembled, h]
      rfl
  · intro raw tx h
    obtain ⟨hd, rfl⟩ := raw_assembled h
    have hf := Draft.exists_toExcept_eq_ok.mp ⟨raw, hd⟩
    have hback (hh : ∀ f ∈ inputs, f.hash.length = 32) : ∃ l : Layout, l.bytes = raw ∧
        l.contents = (assembled version locktime inputs outputs).toContents := by
      obtain ⟨l, hl⟩ := exists_layout_assembled hi ho hsi hso (hn.mp hf) hh
      rw [← hl, l.draft_contents] at hd
      exact ⟨l.shortened, Except.ok.inj hd, l.contents_shortened.trans hl⟩
    refine ⟨⟨?_, ?_⟩, ?_⟩
    · rintro ⟨t, ht, hb⟩
      obtain ⟨l, -, rfl⟩ := ofBytes_eq_ok.mp ht
      exact length_hash_of_contents_eq ((contents_beq_assembled hf).mp hb)
    · intro hh
      obtain ⟨l, hr, hl⟩ := hback hh
      exact ⟨l.transaction, ofBytes_eq_ok.mpr ⟨l, hr, rfl⟩, (contents_beq_assembled hf).mpr hl⟩
    · intro hh
      obtain ⟨l, rfl, hl⟩ := hback hh
      refine ⟨l.transaction, ofBytes_eq_ok.mpr ⟨l, rfl, rfl⟩, hl, fun view => ?_⟩
      rw [perform_view l.isConsistent_transaction, perform_view (isConsistent_of_keptHash?_eq_none rfl)]
      rfl

/-- A script of 253 bytes comes back; a hash of 31 bytes, written before a script without bytes, does not. -/
theorem raw_then_ofBytes_boundary :
    (∃ raw tx t, (assembled 1 0 [⟨.replicate 32 7, 2 ^ 32 - 1, .replicate 253 81, 0⟩] [⟨2 ^ 64 - 1, []⟩]).raw =
        .ok (raw, tx) ∧ ofBytes raw = .ok t ∧ (t == tx) = true) ∧
      ∃ raw tx, (assembled 1 0 [⟨.replicate 31 7, 0, [], 0⟩] []).raw = .ok (raw, tx) ∧
        ¬ ∃ t, ofBytes raw = .ok t ∧ (t == tx) = true := by
  have h := raw_then_ofBytes 1 0 [⟨.replicate 32 7, 2 ^ 32 - 1, .replicate 253 81, 0⟩] [⟨2 ^ 64 - 1, []⟩]
    (by decide) (by decide) (List.forall_mem_singleton.mpr (by decide +kernel))
    (List.forall_mem_singleton.mpr (by decide))
  have h' := raw_then_ofBytes 1 0 [⟨.replicate 31 7, 0, [], 0⟩] [] (by decide) (by decide)
    (List.forall_mem_singleton.mpr (by decide)) (List.forall_mem_nil _)
  simp only [NumbersFit, InputFields.Fits, OutputFields.Fits, List.forall_mem_singleton,
    List.length_replicate] at h h'
  constructor
  · obtain ⟨raw, tx, hr⟩ := h.1.mpr (by decide)
    obtain ⟨t, ht, hb⟩ := (h.2 raw tx hr).1.mpr trivial
    exact ⟨raw, tx, t, hr, ht, hb⟩
  · obtain ⟨raw, tx, hr⟩ := h'.1.mpr (by decide)
    refine ⟨raw, tx, hr, fun hb => ?_⟩
    exact absurd ((h'.2 raw tx hr).1.mp hb) (by decide)

end Remit.Transaction
