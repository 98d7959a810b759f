import Remit.Proofs.Wire.Draft
import Remit.Transaction.Basic

/-!
# Layouts of transactions

A layout is a transaction as it is written: the values of its fields, and the form of every compact size in it. Layouts
are the grammar of the wire format. The main statements are that the readers accept exactly the bytes of layouts, that
the bytes determine the layout, and that what a layout holds is written as the same layout with its sizes shortened.
-/

namespace Remit

open Wire
open Wire.Reader (Reads)

/-! ## Counted lists -/

/-- A list behind the number of its items. -/
@[ext]
structure Wire.Counted (α : Type) where
  size : Size
  items : List α
  size_number : size.number = items.length

namespace Wire.Counted

variable {α β : Type}

/-- The bytes of the number and of the items. -/
def bytes (item : α → Bytes) (c : Counted α) : Bytes := c.size.bytes ++ c.items.flatMap item

/-- A list behind the number of its items in its shortest form. -/
def ofList (items : List α) (h : items.length < 256 ^ 8) : Counted α := ⟨.ofNat items.length h, items, rfl⟩

/-- The same number of other items, behind the number in its shortest form. -/
def shortened (f : α → β) (c : Counted α) : Counted β :=
  ⟨c.size.shortened, c.items.map f, c.size_number.trans (List.length_map f).symm⟩

/-- If each item takes up at least so many bytes, the items together do so many times as many. -/
theorem length_bytes_ge {item : α → Bytes} {k : Nat} (h : ∀ a, k ≤ (item a).length) (c : Counted α) :
    1 + k * c.items.length ≤ (c.bytes item).length := by
  have hs := c.size.length_bytes_pos
  have hi : k * c.items.length ≤ (c.items.flatMap item).length := by
    induction c.items with
    | nil => exact Nat.zero_le _
    | cons a as ih =>
      have := h a
      rw [List.flatMap_cons, List.length_append, List.length_cons, Nat.mul_succ]
      omega
  rw [bytes, List.length_append]
  omega

variable {item : Reader β} {code : α → Bytes} {value : α → β}

theorem reads (h : Reads item code value) :
    Reads (Reader.compactSize >>= Reader.repeated item) (bytes code) (fun c => c.items.map value) := by
  intro bs vs rest
  rw [Reader.takes_bind]
  constructor
  · rintro ⟨n, mid, hn, hr⟩
    obtain ⟨size, rfl, rfl⟩ := (Size.reads _ _ _).mp hn
    obtain ⟨items, hl, rfl, rfl⟩ := (h.repeated _).mp hr
    exact ⟨⟨size, items, hl.symm⟩, (List.append_assoc ..).symm, rfl⟩
  · rintro ⟨⟨size, items, hl⟩, rfl, rfl⟩
    refine ⟨size.number, items.flatMap code ++ rest, ?_, (h.repeated _).mpr ⟨items, hl.symm, rfl, rfl⟩⟩
    rw [bytes, List.append_assoc]
    exact Size.reads.takes size _

/-- A reader goes on behind the list. -/
theorem takes_bind (h : Reads item code value) {γ : Type} {next : List β → Reader γ} {bs rest : Bytes} {a : γ} :
    (Reader.compactSize >>= fun n => Reader.repeated item n >>= next).Takes bs a rest ↔
      ∃ (c : Counted α) (mid : Bytes), bs = c.bytes code ++ mid ∧ (next (c.items.map value)).Takes mid a rest := by
  constructor
  · intro hb
    obtain ⟨n, mid₁, hn, hb⟩ := Reader.takes_bind.mp hb
    obtain ⟨vs, mid, hr, hb⟩ := Reader.takes_bind.mp hb
    obtain ⟨c, rfl, rfl⟩ := (reads h _ _ _).mp (Reader.takes_bind.mpr ⟨n, mid₁, hn, hr⟩)
    exact ⟨c, mid, rfl, hb⟩
  · rintro ⟨c, mid, rfl, hb⟩
    obtain ⟨n, mid₁, hn, hr⟩ := Reader.takes_bind.mp ((reads h).takes c mid)
    exact Reader.takes_bind.mpr ⟨n, mid₁, hn, Reader.takes_bind.mpr ⟨_, mid, hr, hb⟩⟩

/-- What is written of a list that was read, if it is so for each of its items. -/
theorem draft_items {shorten : α → α} {draft : β → Draft} (h : ∀ a, draft (value a) = .of (code (shorten a)))
    (c : Counted α) :
    .compactSize (c.items.map value).length ++ .concat ((c.items.map value).map draft) =
      Draft.of ((c.shortened shorten).bytes code) := by
  have hm : (c.items.map value).map draft = (c.items.map shorten).map fun a => Draft.of (code a) := by
    rw [List.map_map, List.map_map]
    exact List.map_congr_left fun a _ => h a
  rw [hm, Draft.concat_map_of, List.length_map, ← c.size_number, Draft.compactSize_number, Draft.of_append_of]
  rfl

theorem bytes_append_inj (h : Reads item code value) (hc : Function.Injective code) {c d : Counted α} {r s : Bytes}
    (e : c.bytes code ++ r = d.bytes code ++ s) : c = d ∧ r = s := by
  rw [bytes, bytes, List.append_assoc, List.append_assoc] at e
  obtain ⟨hs, e⟩ := Size.reads.append_inj e
  have hs := Size.bytes_injective hs
  have hl : c.items.length = d.items.length := by rw [← c.size_number, ← d.size_number, hs]
  obtain ⟨hi, e⟩ := h.flatMap_append_inj hc hl e
  exact ⟨Counted.ext hs hi, e⟩

end Wire.Counted

namespace Transaction

/-! ## Inputs -/

/-- An input as it is written. -/
@[ext]
structure InputLayout where
  hash : Bytes
  position : Word 4
  script : Sized
  sequence : Word 4
  length_hash : hash.length = 32

namespace InputLayout

/-- The bytes of the input. -/
def bytes (l : InputLayout) : Bytes := l.hash ++ (l.position.bytes ++ (l.script.bytes ++ l.sequence.bytes))

/-- The input that is written. -/
def input (l : InputLayout) : Input := ⟨l.hash, l.position.number, l.script.content, l.sequence.number⟩

/-- The same input with its size shortened. -/
def shortened (l : InputLayout) : InputLayout := { l with script := l.script.shortened }

theorem length_bytes_ge (l : InputLayout) : 41 ≤ l.bytes.length := by
  have := l.script.length_bytes_pos
  simp only [bytes, List.length_append, Word.length_bytes, l.length_hash]
  omega

theorem reads : Reads Input.reader bytes input := by
  intro bs i rest
  simp only [Input.reader, Reader.takes_bind, Reader.takes_pure, Reader.takes_take, Word.reads _ _ _ _,
    Sized.reads _ _ _]
  constructor
  · rintro ⟨hash, _, ⟨rfl, hh⟩, _, _, ⟨position, rfl, rfl⟩, _, _, ⟨script, rfl, rfl⟩, _, _, ⟨sequence, rfl, rfl⟩, rfl, rfl⟩
    exact ⟨⟨hash, position, script, sequence, hh⟩, by simp only [bytes, List.append_assoc], rfl⟩
  · rintro ⟨l, rfl, rfl⟩
    simp only [bytes, List.append_assoc]
    exact ⟨_, _, ⟨rfl, l.length_hash⟩, _, _, ⟨l.position, rfl, rfl⟩, _, _, ⟨l.script, rfl, rfl⟩,
      _, _, ⟨l.sequence, rfl, rfl⟩, rfl, rfl⟩

@[simp] theorem input_shortened (l : InputLayout) : l.shortened.input = l.input := rfl

theorem bytes_injective : Function.Injective bytes := by
  intro k l h
  obtain ⟨hh, h⟩ := List.append_inj h (k.length_hash.trans l.length_hash.symm)
  obtain ⟨hp, h⟩ := (Word.reads 4).append_inj h
  obtain ⟨hs, h⟩ := Sized.reads.append_inj h
  exact InputLayout.ext hh (Word.bytes_injective hp) (Sized.bytes_injective hs) (Word.bytes_injective h)

/-- What is written of an input that was read. -/
@[simp] theorem draft_input (l : InputLayout) : l.input.draft = .of l.shortened.bytes := by
  simp only [Input.draft, input, Draft.raw_bytes, Draft.word_number, Draft.varBytes_content, Draft.of_append_of,
    List.append_assoc]
  rfl

end InputLayout

/-! ## Outputs -/

/-- An output as it is written. -/
@[ext]
structure OutputLayout where
  amount : Word 8
  script : Sized

namespace OutputLayout

/-- The bytes of the output. -/
def bytes (l : OutputLayout) : Bytes := l.amount.bytes ++ l.script.bytes

/-- The output that is written. -/
def output (l : OutputLayout) : Output := ⟨l.amount.number, l.script.content⟩

/-- The same output with its size shortened. -/
def shortened (l : OutputLayout) : OutputLayout := { l with script := l.script.shortened }

theorem length_bytes_ge (l : OutputLayout) : 9 ≤ l.bytes.length := by
  have := l.script.length_bytes_pos
  rw [bytes, List.length_append, Word.length_bytes]
  omega

theorem reads : Reads Output.reader bytes output := by
  intro bs o rest
  simp only [Output.reader, Reader.takes_bind, Reader.takes_pure, Word.reads _ _ _ _, Sized.reads _ _ _]
  constructor
  · rintro ⟨_, _, ⟨amount, rfl, rfl⟩, _, _, ⟨script, rfl, rfl⟩, rfl, rfl⟩
    exact ⟨⟨amount, script⟩, by rw [bytes, List.append_assoc], rfl⟩
  · rintro ⟨l, rfl, rfl⟩
    rw [bytes, List.append_assoc]
    exact ⟨_, _, ⟨l.amount, rfl, rfl⟩, _, _, ⟨l.script, rfl, rfl⟩, rfl, rfl⟩

@[simp] theorem output_shortened (l : OutputLayout) : l.shortened.output = l.output := rfl

theorem bytes_injective : Function.Injective bytes := by
  intro k l h
  obtain ⟨ha, h⟩ := (Word.reads 8).append_inj h
  exact OutputLayout.ext (Word.bytes_injective ha) (Sized.bytes_injective h)

/-- What is written of an output that was read. -/
@[simp] theorem draft_output (l : OutputLayout) : l.output.draft = .of l.shortened.bytes := by
  simp only [Output.draft, output, Draft.word_number, Draft.varBytes_content, Draft.of_append_of]
  rfl

end OutputLayout

/-! ## Transactions -/

/-- A transaction as it is written. -/
@[ext]
structure Layout where
  version : Word 4
  inputs : Counted InputLayout
  outputs : Counted OutputLayout
  locktime : Word 4

namespace Layout

/-- The bytes of the transaction. -/
def bytes (l : Layout) : Bytes :=
  l.version.bytes ++ (l.inputs.bytes InputLayout.bytes ++ (l.outputs.bytes OutputLayout.bytes ++ l.locktime.bytes))

/-- What the transaction holds. -/
def contents (l : Layout) : Contents where
  version := l.version.number
  locktime := l.locktime.number
  inputs := l.inputs.items.map InputLayout.input
  outputs := l.outputs.items.map OutputLayout.output

/-- The same transaction with all sizes shortened. -/
def shortened (l : Layout) : Layout :=
  { l with inputs := l.inputs.shortened InputLayout.shortened, outputs := l.outputs.shortened OutputLayout.shortened }

@[simp] theorem contents_shortened (l : Layout) : l.shortened.contents = l.contents := by
  simp [contents, shortened, Counted.shortened, Function.comp_def]

/-- What a transaction takes up at least. -/
theorem length_bytes_ge (l : Layout) :
    10 + 41 * l.inputs.items.length + 9 * l.outputs.items.length ≤ l.bytes.length := by
  have hi := l.inputs.length_bytes_ge InputLayout.length_bytes_ge
  have ho := l.outputs.length_bytes_ge OutputLayout.length_bytes_ge
  simp only [bytes, List.length_append, Word.length_bytes]
  omega

theorem reads : Reads Contents.reader bytes contents := by
  intro bs c rest
  constructor
  · intro h
    obtain ⟨_, _, hv, hi⟩ := Reader.takes_bind.mp h
    obtain ⟨version, rfl, rfl⟩ := (Word.reads 4 _ _ _).mp hv
    obtain ⟨inputs, _, rfl, ho⟩ := (Counted.takes_bind InputLayout.reads).mp hi
    obtain ⟨outputs, _, rfl, hl⟩ := (Counted.takes_bind OutputLayout.reads).mp ho
    obtain ⟨_, _, hl, hp⟩ := Reader.takes_bind.mp hl
    obtain ⟨locktime, rfl, rfl⟩ := (Word.reads 4 _ _ _).mp hl
    obtain ⟨rfl, rfl⟩ := Reader.takes_pure.mp hp
    exact ⟨⟨version, inputs, outputs, locktime⟩, by simp only [bytes, List.append_assoc], rfl⟩
  · rintro ⟨l, rfl, rfl⟩
    simp only [bytes, List.append_assoc]
    refine Reader.takes_bind.mpr ⟨_, _, (Word.reads 4).takes l.version _, ?_⟩
    refine (Counted.takes_bind InputLayout.reads).mpr ⟨l.inputs, _, rfl, ?_⟩
    refine (Counted.takes_bind OutputLayout.reads).mpr ⟨l.outputs, _, rfl, ?_⟩
    exact Reader.takes_bind.mpr ⟨_, _, (Word.reads 4).takes l.locktime rest, Reader.takes_pure.mpr ⟨rfl, rfl⟩⟩

theorem bytes_injective : Function.Injective bytes := by
  intro k l h
  obtain ⟨hv, h⟩ := (Word.reads 4).append_inj h
  obtain ⟨hi, h⟩ := Counted.bytes_append_inj InputLayout.reads InputLayout.bytes_injective h
  obtain ⟨ho, h⟩ := Counted.bytes_append_inj OutputLayout.reads OutputLayout.bytes_injective h
  exact Layout.ext (Word.bytes_injective hv) hi ho (Word.bytes_injective h)

/-- What is written of a transaction that was read. -/
theorem draft_contents (l : Layout) : l.contents.draft = .of l.shortened.bytes := by
  have hi := l.inputs.draft_items InputLayout.draft_input
  have ho := l.outputs.draft_items OutputLayout.draft_output
  simp only [Contents.draft, contents, Draft.word_number, hi, ho, Draft.of_append_of, List.append_assoc]
  rfl

end Layout

end Transaction

end Remit
