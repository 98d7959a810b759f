import Remit.Proofs.Wire.Reader

/-!
# Written forms

The forms that numbers and byte strings have on the wire. A word has one. A compact size has up to four, of which a
larger one may hold a small number too: a form that could be shorter is read all the same, but never written. Each kind
of form comes with the statement that its reader accepts exactly these forms, and that the bytes determine the form.
-/

namespace Remit.Wire

open Reader (Reads)

/-! ## Words -/

/-- A number in `width` bytes, least significant first. -/
@[ext]
structure Word (width : Nat) where
  number : Nat
  fits : number < 256 ^ width

namespace Word

variable {width : Nat}

/-- The bytes of the word. -/
def bytes (w : Word width) : Bytes := Bytes.ofNatLE width w.number

@[simp] theorem length_bytes (w : Word width) : w.bytes.length = width := Bytes.length_ofNatLE width w.number

@[simp] theorem toNatLE_bytes (w : Word width) : Bytes.toNatLE w.bytes = w.number :=
  (Bytes.toNatLE_ofNatLE width w.number).trans (Nat.mod_eq_of_lt w.fits)

theorem bytes_injective : Function.Injective (@bytes width) := by
  intro v w h
  ext
  rw [← v.toNatLE_bytes, h, w.toNatLE_bytes]

/-- The word that bytes spell. -/
def ofBytes (bs : Bytes) : Word bs.length := ⟨Bytes.toNatLE bs, Bytes.toNatLE_lt bs⟩

@[simp] theorem bytes_ofBytes (bs : Bytes) : (ofBytes bs).bytes = bs := Bytes.ofNatLE_toNatLE bs

theorem reads (width : Nat) : Reads (Reader.word width) (@bytes width) (@number width) := by
  intro bs n rest
  rw [Reader.takes_word]
  constructor
  · rintro ⟨front, rfl, rfl, rfl⟩
    exact ⟨ofBytes front, by rw [bytes_ofBytes], rfl⟩
  · rintro ⟨w, rfl, rfl⟩
    exact ⟨w.bytes, rfl, w.length_bytes, w.toNatLE_bytes⟩

end Word

/-! ## Compact sizes -/

/-- The forms of a compact size: how many bytes it takes. -/
inductive SizeForm where
  | one
  | three
  | five
  | nine
deriving DecidableEq

namespace SizeForm

/-- What stands before the number. -/
def mark : SizeForm → Bytes
  | .one => []
  | .three => [253]
  | .five => [254]
  | .nine => [255]

/-- In how many bytes the number itself is written. -/
def width : SizeForm → Nat
  | .one => 1
  | .three => 2
  | .five => 4
  | .nine => 8

/-- The least number that the form cannot hold. Without a mark, a byte that would be one is no number. -/
def limit : SizeForm → Nat
  | .one => 253
  | form => 256 ^ form.width

/-- The form in which a number is written: the shortest that holds it. -/
def shortest (n : Nat) : SizeForm :=
  if n < 253 then .one else if n < 256 ^ 2 then .three else if n < 256 ^ 4 then .five else .nine

theorem limit_le_pow_width (form : SizeForm) : form.limit ≤ 256 ^ form.width := by
  cases form <;> decide

theorem pow_width_le (form : SizeForm) : 256 ^ form.width ≤ 256 ^ 8 := by
  cases form <;> decide

theorem limit_le (form : SizeForm) : form.limit ≤ 256 ^ 8 :=
  Nat.le_trans form.limit_le_pow_width form.pow_width_le

theorem lt_limit_shortest {n : Nat} (h : n < 256 ^ 8) : n < (shortest n).limit := by
  unfold shortest
  split
  · assumption
  · split
    · assumption
    · split
      · assumption
      · exact h

end SizeForm

/-- A compact size as it is written: a number, in a form that can hold it. -/
@[ext]
structure Size where
  number : Nat
  form : SizeForm
  fits : number < form.limit

namespace Size

/-- The number as a word behind the mark. -/
def word (s : Size) : Word s.form.width := ⟨s.number, Nat.lt_of_lt_of_le s.fits s.form.limit_le_pow_width⟩

/-- The bytes of the size. -/
def bytes (s : Size) : Bytes := s.form.mark ++ s.word.bytes

/-- A number in its shortest form. -/
def ofNat (n : Nat) (h : n < 256 ^ 8) : Size := ⟨n, .shortest n, SizeForm.lt_limit_shortest h⟩

theorem number_lt (s : Size) : s.number < 256 ^ 8 := Nat.lt_of_lt_of_le s.fits s.form.limit_le

/-- The same number in its shortest form. -/
def shortened (s : Size) : Size := ofNat s.number s.number_lt

theorem length_bytes (s : Size) : s.bytes.length = s.form.mark.length + s.form.width := by
  rw [bytes, List.length_append, Word.length_bytes]

theorem length_bytes_pos (s : Size) : 0 < s.bytes.length := by
  rw [length_bytes]
  cases s.form <;> decide

/-- The number of bytes tells the form. -/
theorem form_eq_of_length_eq {s t : Size} (h : s.bytes.length = t.bytes.length) : s.form = t.form := by
  rw [length_bytes, length_bytes] at h
  revert h
  cases s.form <;> cases t.form <;> decide

theorem reads : Reads Reader.compactSize bytes number := by
  intro bs n rest
  rw [Reader.compactSize, Reader.takes_bind]
  constructor
  · rintro ⟨tag, mid, ht, h⟩
    obtain ⟨⟨tag, ht⟩, rfl, rfl⟩ := (Word.reads 1 _ _ _).mp ht
    dsimp only at h
    -- The tag is the number itself, or one of the three marks.
    split at h
    case isTrue hs =>
      obtain ⟨rfl, rfl⟩ := Reader.takes_pure.mp h
      exact ⟨⟨tag, .one, hs⟩, rfl, rfl⟩
    split at h
    case isTrue hs =>
      subst hs
      obtain ⟨w, rfl, rfl⟩ := (Word.reads 2 _ _ _).mp h
      exact ⟨⟨w.number, .three, w.fits⟩, rfl, rfl⟩
    split at h
    case isTrue hs =>
      subst hs
      obtain ⟨w, rfl, rfl⟩ := (Word.reads 4 _ _ _).mp h
      exact ⟨⟨w.number, .five, w.fits⟩, rfl, rfl⟩
    case isFalse =>
      obtain rfl : tag = 255 := by omega
      obtain ⟨w, rfl, rfl⟩ := (Word.reads 8 _ _ _).mp h
      exact ⟨⟨w.number, .nine, w.fits⟩, rfl, rfl⟩
  · rintro ⟨⟨n, form, fits⟩, rfl, rfl⟩
    cases form with
    | one =>
      have hn : n < 256 ^ 1 := Nat.lt_trans fits (by decide)
      refine ⟨n, rest, (Word.reads 1).takes ⟨n, hn⟩ rest, ?_⟩
      rw [if_pos (show n < 253 from fits)]
      exact Reader.takes_pure.mpr ⟨rfl, rfl⟩
    | three => exact ⟨253, _, (Word.reads 1).takes ⟨253, by decide⟩ _, (Word.reads 2).takes ⟨n, fits⟩ rest⟩
    | five => exact ⟨254, _, (Word.reads 1).takes ⟨254, by decide⟩ _, (Word.reads 4).takes ⟨n, fits⟩ rest⟩
    | nine => exact ⟨255, _, (Word.reads 1).takes ⟨255, by decide⟩ _, (Word.reads 8).takes ⟨n, fits⟩ rest⟩

theorem bytes_injective : Function.Injective bytes := by
  intro s t h
  have hn : s.number = t.number := by
    have hs := reads.takes s []
    rw [h] at hs
    exact (hs.unique (reads.takes t [])).1
  exact Size.ext hn (form_eq_of_length_eq (congrArg List.length h))

end Size

/-! ## Sized bytes -/

/-- Bytes behind their number. -/
@[ext]
structure Sized where
  size : Size
  content : Bytes
  size_number : size.number = content.length

namespace Sized

/-- The bytes of both. -/
def bytes (s : Sized) : Bytes := s.size.bytes ++ s.content

/-- Bytes behind their number in its shortest form. -/
def ofBytes (bs : Bytes) (h : bs.length < 256 ^ 8) : Sized := ⟨.ofNat bs.length h, bs, rfl⟩

/-- The same bytes behind their number in its shortest form. -/
def shortened (s : Sized) : Sized := ⟨s.size.shortened, s.content, s.size_number⟩

theorem length_bytes_pos (s : Sized) : 0 < s.bytes.length := by
  have := s.size.length_bytes_pos
  rw [bytes, List.length_append]
  omega

theorem reads : Reads Reader.varBytes bytes content := by
  intro bs content rest
  rw [Reader.varBytes, Reader.takes_bind]
  constructor
  · rintro ⟨n, mid, hn, hc⟩
    obtain ⟨size, rfl, rfl⟩ := (Size.reads _ _ _).mp hn
    obtain ⟨rfl, hl⟩ := Reader.takes_take.mp hc
    exact ⟨⟨size, content, hl.symm⟩, (List.append_assoc ..).symm, rfl⟩
  · rintro ⟨⟨size, content, hl⟩, rfl, rfl⟩
    refine ⟨size.number, content ++ rest, ?_, Reader.takes_take.mpr ⟨rfl, hl.symm⟩⟩
    rw [bytes, List.append_assoc]
    exact Size.reads.takes size _

theorem bytes_injective : Function.Injective bytes := by
  intro s t h
  obtain ⟨hs, hc⟩ := Size.reads.append_inj h
  exact Sized.ext (Size.bytes_injective hs) hc

end Sized

end Remit.Wire
