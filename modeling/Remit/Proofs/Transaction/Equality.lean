import Remit.Proofs.Transaction.Layout
import Remit.Proofs.Value.Equality

/-!
# Equality of transactions

What can be written holds numbers and bytes only. Transactions that can be written are equal if they hold the same once
truth values are replaced by the numbers they stand for. Nothing else is written in their place, so equal transactions
are written alike.
-/

namespace Remit

open Wire

/-! ## Values -/

namespace Value

theorem isWritable_of_isFinished_word {width : Nat} {v : Value} (h : (Draft.word width v).IsFinished) :
    v.IsWritable := by
  obtain ⟨w, hw⟩ := Draft.isFinished_word.mp h
  exact isWritable_of_toInt? hw

theorem isWritable_of_isFinished_raw {v : Value} (h : (Draft.raw v).IsFinished) : v.IsWritable := by
  obtain ⟨bs, rfl⟩ := Draft.isFinished_raw.mp h
  exact .bytes bs

theorem isWritable_of_isFinished_varBytes {v : Value} (h : (Draft.varBytes v).IsFinished) : v.IsWritable := by
  obtain ⟨bs, rfl, -⟩ := Draft.isFinished_varBytes.mp h
  exact .bytes bs

@[simp] theorem word_plain (width : Nat) (v : Value) : Draft.word width v.plain = Draft.word width v := by
  rw [Draft.word, Draft.word, toInt?_plain]

@[simp] theorem raw_plain (v : Value) : Draft.raw v.plain = Draft.raw v := by
  cases v <;> rfl

@[simp] theorem varBytes_plain (v : Value) : Draft.varBytes v.plain = Draft.varBytes v := by
  cases v <;> rfl

end Value

namespace Transaction

theorem fieldsEqual_iff {vs ws : List Value} (hv : ∀ v ∈ vs, v.IsWritable) (hw : ∀ w ∈ ws, w.IsWritable) :
    fieldsEqual vs ws = true ↔ vs.map Value.plain = ws.map Value.plain := by
  rw [fieldsEqual, Value.list_beq_of_isKey fun v h => (hv v h).isKey]
  exact list_beq_iff_map_eq fun v h w h' => Value.beq_iff_plain_eq (hv v h) (hw w h')

/-! ## Inputs -/

namespace Input

/-- The input with plain fields. -/
def plain (i : Input) : Input := ⟨i.hash.plain, i.position.plain, i.script.plain, i.sequence.plain⟩

@[simp] theorem draft_plain (i : Input) : i.plain.draft = i.draft := by
  simp only [draft, plain, Value.raw_plain, Value.word_plain, Value.varBytes_plain]

theorem isWritable_fields {i : Input} (h : i.draft.IsFinished) : ∀ v ∈ i.fields, v.IsWritable := by
  simp only [draft, Draft.isFinished_append] at h
  obtain ⟨⟨⟨hh, hp⟩, hs⟩, hq⟩ := h
  simp only [fields, List.forall_mem_cons]
  exact ⟨Value.isWritable_of_isFinished_raw hh, Value.isWritable_of_isFinished_word hp,
    Value.isWritable_of_isFinished_varBytes hs, Value.isWritable_of_isFinished_word hq, List.forall_mem_nil _⟩

theorem beq_iff_plain_eq {i j : Input} (hi : i.draft.IsFinished) (hj : j.draft.IsFinished) :
    (i == j) = true ↔ i.plain = j.plain := by
  refine (fieldsEqual_iff (isWritable_fields hi) (isWritable_fields hj)).trans ?_
  simp only [fields, plain, List.map_cons, List.map_nil, List.cons.injEq, Input.mk.injEq, and_true]

end Input

/-! ## Outputs -/

namespace Output

/-- The output with plain fields. -/
def plain (o : Output) : Output := ⟨o.amount.plain, o.script.plain⟩

@[simp] theorem draft_plain (o : Output) : o.plain.draft = o.draft := by
  simp only [draft, plain, Value.word_plain, Value.varBytes_plain]

theorem isWritable_fields {o : Output} (h : o.draft.IsFinished) : ∀ v ∈ o.fields, v.IsWritable := by
  simp only [draft, Draft.isFinished_append] at h
  simp only [fields, List.forall_mem_cons]
  exact ⟨Value.isWritable_of_isFinished_word h.1, Value.isWritable_of_isFinished_varBytes h.2, List.forall_mem_nil _⟩

theorem beq_iff_plain_eq {o p : Output} (ho : o.draft.IsFinished) (hp : p.draft.IsFinished) :
    (o == p) = true ↔ o.plain = p.plain := by
  refine (fieldsEqual_iff (isWritable_fields ho) (isWritable_fields hp)).trans ?_
  simp only [fields, plain, List.map_cons, List.map_nil, List.cons.injEq, Output.mk.injEq, and_true]

end Output

/-! ## Transactions -/

namespace Contents

/-- The contents with plain fields. -/
def plain (c : Contents) : Contents :=
  ⟨c.version.plain, c.locktime.plain, c.inputs.map Input.plain, c.outputs.map Output.plain⟩

@[simp] theorem draft_plain (c : Contents) : c.plain.draft = c.draft := by
  simp only [draft, plain, Value.word_plain, List.length_map, List.map_map, Function.comp_def, Input.draft_plain,
    Output.draft_plain]

theorem isFinished_draft {c : Contents} (h : c.draft.IsFinished) :
    c.version.IsWritable ∧ c.locktime.IsWritable ∧ (∀ i ∈ c.inputs, i.draft.IsFinished) ∧
      ∀ o ∈ c.outputs, o.draft.IsFinished := by
  simp only [draft, Draft.isFinished_append, Draft.isFinished_concat, List.forall_mem_map] at h
  obtain ⟨⟨⟨hv, -, hi⟩, -, ho⟩, hl⟩ := h
  exact ⟨Value.isWritable_of_isFinished_word hv, Value.isWritable_of_isFinished_word hl, hi, ho⟩

theorem beq_iff_plain_eq {c d : Contents} (hc : c.draft.IsFinished) (hd : d.draft.IsFinished) :
    (c == d) = true ↔ c.plain = d.plain := by
  obtain ⟨hvc, hlc, hic, hoc⟩ := isFinished_draft hc
  obtain ⟨hvd, hld, hid, hod⟩ := isFinished_draft hd
  have hi := list_beq_iff_map_eq fun i h j h' => Input.beq_iff_plain_eq (hic i h) (hid j h')
  have ho := list_beq_iff_map_eq fun o h p h' => Output.beq_iff_plain_eq (hoc o h) (hod p h')
  change (c.version == d.version && c.locktime == d.locktime && c.inputs == d.inputs && c.outputs == d.outputs) = true ↔ _
  rw [Bool.and_eq_true, Bool.and_eq_true, Bool.and_eq_true, Value.beq_iff_plain_eq hvc hvd,
    Value.beq_iff_plain_eq hlc hld, hi, ho, plain, plain, Contents.mk.injEq, and_assoc, and_assoc]

/-- Equal contents are written alike. -/
theorem draft_eq_of_beq {c d : Contents} (hc : c.draft.IsFinished) (hd : d.draft.IsFinished) (h : (c == d) = true) :
    c.draft = d.draft := by
  rw [← c.draft_plain, (beq_iff_plain_eq hc hd).mp h, d.draft_plain]

end Contents

/-! ## What was read -/

namespace Layout

/-- What was read is plain. -/
@[simp] theorem plain_contents (l : Layout) : l.contents.plain = l.contents := by
  have hi : Input.plain ∘ InputLayout.input = InputLayout.input := rfl
  have ho : Output.plain ∘ OutputLayout.output = OutputLayout.output := rfl
  simp only [Contents.plain, contents, List.map_map, hi, ho]
  rfl

theorem isFinished_draft_contents (l : Layout) : l.contents.draft.IsFinished := by
  rw [l.draft_contents]
  exact Draft.isFinished_of _

end Layout

end Transaction

end Remit
