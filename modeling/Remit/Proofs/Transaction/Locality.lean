import Remit.Proofs.Transaction.Reading
import Remit.Proofs.Wire.Cursor

/-!
# Reading in place

What a reader takes at a place of a buffer depends on the bytes that it takes, and on nothing before or after them. Where
the same bytes stand in another buffer it takes the same, and where a buffer ends among them it finds too few.
-/

namespace Remit

namespace Wire.Cursor

variable {α β : Type} {item : Reader β}

/-- What is taken at one place is taken wherever the same bytes stand, and where a buffer ends among these bytes they run
out. -/
structure ReadsInPlace (item : Reader α) : Prop where
  /-- Some number of bytes is taken. -/
  onward {c d : Cursor} {a : α} (h : c.read item = (.ok a, d)) : ∃ k, d.position = c.position + k
  /-- As many are taken, with the same result, at any place where they stand next. -/
  elsewhere {c d c' : Cursor} {a : α} {k : Nat} (h : c.read item = (.ok a, d)) (hk : d.position = c.position + k)
    (hsame : (c'.buffer.drop c'.position).take k = (c.buffer.drop c.position).take k) :
    ∃ d', c'.read item = (.ok a, d') ∧ d'.position = c'.position + k ∧ d'.buffer = c'.buffer
  /-- Where only some of them stand, and nothing behind them, more are asked for than are left. -/
  cut {c d c' : Cursor} {a : α} {k : Nat} (h : c.read item = (.ok a, d)) (hk : d.position = c.position + k)
    (hlt : c'.remaining < k) (hsame : c'.buffer.drop c'.position = (c.buffer.drop c.position).take c'.remaining) :
    ∃ e, Reader.IsEndOfData e ∧ (c'.read item).1 = .error e

/-- Written forms tell where they end, so it does not matter what stands around them. -/
theorem ReadsInPlace.of_reads {bytes : α → Bytes} {value : α → β} (h : Reader.Reads item bytes value)
    (hs : item.FailsShort) : ReadsInPlace item where
  onward hr := by
    obtain ⟨a, -, -, hd⟩ := exists_form_of_read h hr
    exact ⟨_, hd⟩
  elsewhere {c d c'} _ {k} hr hk hsame := by
    obtain ⟨a, rfl, hc, hd⟩ := exists_form_of_read h hr
    obtain rfl : k = (bytes a).length := Nat.add_left_cancel (hk.symm.trans hd)
    -- The next bytes at the other place are those of the form.
    rw [drop_position_buffer, drop_position_buffer, hc, List.take_left] at hsame
    have hc' : c'.after = c'.after.take (bytes a).length ++ c'.after.drop (bytes a).length :=
      (List.take_append_drop _ _).symm
    rw [hsame] at hc'
    refine ⟨_, read_of_run ((h _ _ _).mpr ⟨a, hc', rfl⟩) hc', List.length_append, ?_⟩
    rw [buffer, buffer, List.append_assoc, ← hc']
  cut {c d c'} _ {k} hr hk hlt hsame := by
    obtain ⟨a, rfl, hc, hd⟩ := exists_form_of_read h hr
    obtain rfl : k = (bytes a).length := Nat.add_left_cancel (hk.symm.trans hd)
    rw [drop_position_buffer, drop_position_buffer, hc, List.take_append_of_le_length (Nat.le_of_lt hlt)] at hsame
    have hne : c'.after ≠ bytes a := fun he => Nat.ne_of_lt hlt (congrArg List.length he)
    have hprefix : c'.after <+: bytes a := by
      rw [hsame]
      exact List.take_prefix _ _
    obtain ⟨e, rest, he, hf⟩ := h.fails_of_prefix hs hprefix hne
    exact ⟨e, he, congrArg Prod.fst hf⟩

/-- What never succeeds promises nothing. -/
theorem ReadsInPlace.of_fails (h : ∀ bs, ∃ e rest, item.Fails bs e rest) : ReadsInPlace item := by
  have hread {c d : Cursor} {b : β} : c.read item ≠ (.ok b, d) := by
    intro hr
    obtain ⟨e, rest, hf⟩ := h c.after
    have he : (c.read item).1 = .error e := congrArg Prod.fst hf
    rw [hr] at he
    cases he
  exact ⟨fun hr => absurd hr hread, fun hr => absurd hr hread, fun hr => absurd hr hread⟩

end Wire.Cursor

namespace Transaction

open Wire Wire.Cursor

/-- Versions that can be read make no difference, and with others nothing is read. -/
theorem Output.readsInPlace_readerOf (protocol transaction : Value) :
    ReadsInPlace (Output.readerOf protocol transaction) := by
  rw [readerOf]
  cases checkVersions protocol transaction with
  | ok _ => exact .of_reads OutputLayout.reads Output.failsShort_reader
  | error e => exact .of_fails fun bs => ⟨e, bs, rfl⟩

/-- Sizes, bytes behind their size, inputs and outputs of any versions are read in place. -/
theorem readers_read_in_place :
    ReadsInPlace Reader.compactSize ∧ ReadsInPlace Reader.varBytes ∧ ReadsInPlace Input.reader ∧
      ∀ protocol transaction, ReadsInPlace (Output.readerOf protocol transaction) :=
  ⟨.of_reads Size.reads .compactSize, .of_reads Sized.reads .varBytes,
    .of_reads InputLayout.reads Input.failsShort_reader, Output.readsInPlace_readerOf⟩

/-- Two bytes behind a size of three bytes, which stand between others, are read where nothing is around them, and run
out where the last one lacks. -/
theorem readers_read_in_place_script :
    (∃ d, (⟨[], [253, 2, 0, 81, 82]⟩ : Cursor).read Reader.varBytes = (.ok [81, 82], d) ∧ d.position = 0 + 5 ∧
      d.buffer = [253, 2, 0, 81, 82]) ∧
    ∃ e, Reader.IsEndOfData e ∧ ((⟨[1, 1], [253, 2, 0, 81]⟩ : Cursor).read Reader.varBytes).1 = .error e := by
  let c : Cursor := ⟨[7], [253, 2, 0, 81, 82, 9]⟩
  let d : Cursor := ⟨[7, 253, 2, 0, 81, 82], [9]⟩
  have h : c.read Reader.varBytes = (.ok [81, 82], d) := rfl
  have hk : d.position = c.position + 5 := rfl
  obtain ⟨-, hbytes, -, -⟩ := readers_read_in_place
  exact ⟨hbytes.elsewhere h hk rfl, hbytes.cut h hk (by decide) rfl⟩

end Transaction

end Remit
