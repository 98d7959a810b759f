import Remit.Proofs.Wire.Form
import Remit.Wire.Draft

/-!
# What drafts write

A draft of parts is finished if all its parts are, and then their bytes stand one after the other. Of each kind of item
this says which values can be written, and that they are written in their one form, or in the shortest of their forms.
-/

namespace Remit.Wire.Draft

/-- Nothing stopped the draft. -/
def IsFinished (d : Draft) : Prop := d.stop? = none

@[simp] theorem isFinished_of (bs : Bytes) : (of bs).IsFinished := rfl

theorem toExcept_of_isFinished {d : Draft} (h : d.IsFinished) : d.toExcept = .ok d.bytes := by
  rw [toExcept, h]

/-- A draft gives bytes if and only if it is finished. -/
theorem exists_toExcept_eq_ok {d : Draft} : (∃ bs, d.toExcept = .ok bs) ↔ d.IsFinished := by
  constructor
  · rintro ⟨bs, h⟩
    rw [toExcept] at h
    split at h
    · cases h
    · assumption
  · intro h
    exact ⟨d.bytes, toExcept_of_isFinished h⟩

/-! ## Parts -/

@[simp] theorem of_nil_append (d : Draft) : of [] ++ d = d := rfl

@[simp] theorem of_append_of (bs cs : Bytes) : of bs ++ of cs = of (bs ++ cs) := rfl

theorem append_of_isFinished {d e : Draft} (h : d.IsFinished) : d ++ e = ⟨d.bytes ++ e.bytes, e.stop?⟩ := by
  obtain ⟨bs, _ | error⟩ := d
  · rfl
  · cases h

theorem stop?_append {d : Draft} (h : d.IsFinished) (e : Draft) : (d ++ e).stop? = e.stop? := by
  rw [append_of_isFinished h]

theorem append_of_not_isFinished {d e : Draft} (h : ¬ d.IsFinished) : d ++ e = d := by
  obtain ⟨bs, _ | e⟩ := d
  · exact absurd rfl h
  · rfl

@[simp] theorem isFinished_append {d e : Draft} : (d ++ e).IsFinished ↔ d.IsFinished ∧ e.IsFinished := by
  by_cases h : d.IsFinished
  · rw [append_of_isFinished h]
    exact ⟨fun he => ⟨h, he⟩, fun he => he.2⟩
  · rw [append_of_not_isFinished h]
    exact ⟨fun hd => absurd hd h, fun hd => absurd hd.1 h⟩

@[simp] theorem concat_cons (d : Draft) (ds : List Draft) : concat (d :: ds) = d ++ concat ds := rfl

@[simp] theorem isFinished_concat {ds : List Draft} : (concat ds).IsFinished ↔ ∀ d ∈ ds, d.IsFinished := by
  induction ds with
  | nil => exact ⟨fun _ _ h => (List.not_mem_nil h).elim, fun _ => rfl⟩
  | cons d ds ih => rw [concat_cons, isFinished_append, ih, List.forall_mem_cons]

/-- Drafts that are finished one by one are finished together. -/
theorem concat_map_of {α : Type} (bytes : α → Bytes) (as : List α) :
    concat (as.map fun a => of (bytes a)) = of (as.flatMap bytes) := by
  induction as with
  | nil => rfl
  | cons a as ih => rw [List.map_cons, concat_cons, ih, of_append_of, List.flatMap_cons]

/-! ## Items -/

@[simp] theorem raw_bytes (bs : Bytes) : raw (.bytes bs) = of bs := rfl

theorem isFinished_raw {v : Value} : (raw v).IsFinished ↔ ∃ bs, v = .bytes bs := by
  constructor
  · intro h
    cases v with
    | bytes bs => exact ⟨bs, rfl⟩
    | _ => cases h
  · rintro ⟨bs, rfl⟩
    rfl

theorem word_eq {width : Nat} {v : Value} {w : Word width} (h : v.toInt? = some (w.number : Int)) :
    word width v = of w.bytes := by
  rw [word, h]
  exact if_pos w.fits

@[simp] theorem word_number {width : Nat} (w : Word width) : word width w.number = of w.bytes := word_eq rfl

theorem isFinished_word {width : Nat} {v : Value} :
    (word width v).IsFinished ↔ ∃ w : Word width, v.toInt? = some (w.number : Int) := by
  constructor
  · intro h
    rw [word] at h
    split at h
    case h_1 n hn =>
      split at h
      case isTrue hf => exact ⟨⟨n, hf⟩, hn⟩
      case isFalse => cases h
    case h_2 => cases h
  · rintro ⟨w, h⟩
    rw [word_eq h]
    rfl

/-- An integer fits in a word if it is neither negative nor too large. -/
theorem isFinished_word_int {width : Nat} {i : Int} :
    (word width (.int i)).IsFinished ↔ 0 ≤ i ∧ i < 256 ^ width := by
  have hp : ((256 ^ width : Nat) : Int) = 256 ^ width := Int.natCast_pow 256 width
  rw [isFinished_word]
  constructor
  · rintro ⟨w, h⟩
    obtain rfl : i = w.number := Option.some.inj h
    rw [← hp]
    exact ⟨Int.natCast_nonneg _, Int.ofNat_lt.mpr w.fits⟩
  · rintro ⟨h₀, h⟩
    obtain ⟨n, rfl⟩ := Int.eq_ofNat_of_zero_le h₀
    rw [← hp] at h
    exact ⟨⟨n, Int.ofNat_lt.mp h⟩, rfl⟩

/-- A whole number is compared as what it is. -/
theorem order?_of_toInt? {v : Value} {i : Int} (h : v.toInt? = some i) :
    order? v = some fun j => some (compare i j) := by
  cases v with
  | bool b =>
    cases h
    rfl
  | int j =>
    cases h
    rfl
  | _ => cases h

theorem compare_beq_lt (i j : Int) : (some (compare i j) == some Ordering.lt) = decide (i < j) := by
  rw [Bool.eq_iff_iff, beq_iff_eq, decide_eq_true_iff, Option.some_inj, Std.compare_eq_lt]

theorem compare_beq_eq (i j : Int) : (some (compare i j) == some Ordering.eq) = decide (i = j) := by
  rw [Bool.eq_iff_iff, beq_iff_eq, decide_eq_true_iff, Option.some_inj, Std.compare_eq_iff_eq]

/-- The form is chosen by size alone. -/
theorem compactSize_eq_append (n : Nat) :
    compactSize n = of (SizeForm.shortest n).mark ++ word (SizeForm.shortest n).width n := by
  simp only [compactSize, order?, compare_beq_lt, compare_beq_eq, SizeForm.shortest, Bool.or_eq_true,
    decide_eq_true_eq]
  by_cases h₁ : n < 253
  · rw [if_pos (by omega), if_pos h₁]
    exact (of_nil_append _).symm
  rw [if_neg (by omega), if_neg h₁]
  by_cases h₂ : n < 256 ^ 2
  · rw [if_pos (by omega), if_pos h₂]
    rfl
  rw [if_neg (by omega), if_neg h₂]
  by_cases h₃ : n < 256 ^ 4
  · rw [if_pos (by omega), if_pos h₃]
    rfl
  rw [if_neg (by omega), if_neg h₃]
  rfl

theorem compactSize_eq {n : Nat} (h : n < 256 ^ 8) : compactSize n = of (Size.ofNat n h).bytes := by
  have hw : word (SizeForm.shortest n).width n = of (Size.ofNat n h).word.bytes :=
    word_eq (show (Value.int n).toInt? = some ((Size.ofNat n h).word.number : Int) from rfl)
  rw [compactSize_eq_append, hw, of_append_of]
  rfl

@[simp] theorem compactSize_number (s : Size) : compactSize s.number = of s.shortened.bytes :=
  compactSize_eq s.number_lt

theorem isFinished_compactSize {n : Nat} : (compactSize n).IsFinished ↔ n < 256 ^ 8 := by
  constructor
  · intro h
    rw [compactSize_eq_append, isFinished_append] at h
    obtain ⟨w, hw⟩ := isFinished_word.mp h.2
    have hn : n = w.number := Int.ofNat_inj.mp (Option.some.inj hw)
    have hf := w.fits
    rw [← hn] at hf
    exact Nat.lt_of_lt_of_le hf (SizeForm.pow_width_le _)
  · intro h
    rw [compactSize_eq h]
    rfl

/-- A negative number is taken for one of a single byte, and does not fit there. -/
theorem compactSize_of_neg {i : Int} (h : i < 0) : compactSize (.int i) = word 1 (.int i) := by
  simp only [compactSize, order?, compare_beq_lt]
  exact if_pos (decide_eq_true (by omega))

theorem isFinished_compactSize_int {i : Int} : (compactSize (.int i)).IsFinished ↔ 0 ≤ i ∧ i < 256 ^ 8 := by
  obtain h | h := Int.lt_or_le i 0
  · rw [compactSize_of_neg h, isFinished_word_int]
    omega
  · obtain ⟨n, rfl⟩ := Int.eq_ofNat_of_zero_le h
    rw [isFinished_compactSize]
    omega

theorem varBytes_bytes (bs : Bytes) : varBytes (.bytes bs) = compactSize bs.length ++ of bs := by
  simp only [varBytes, Value.length?, raw]

@[simp] theorem varBytes_content (s : Sized) : varBytes (.bytes s.content) = of s.shortened.bytes := by
  rw [varBytes_bytes, ← s.size_number, compactSize_number, of_append_of]
  rfl

@[simp] theorem isFinished_varBytes_bytes {bs : Bytes} : (varBytes (.bytes bs)).IsFinished ↔ bs.length < 256 ^ 8 := by
  rw [varBytes_bytes, isFinished_append, isFinished_compactSize]
  exact ⟨fun h => h.1, fun h => ⟨h, rfl⟩⟩

/-- Bytes that are too many for a size stop the draft at the size. -/
theorem stop?_varBytes {bs : Bytes} (h : ¬ bs.length < 256 ^ 8) : (varBytes (.bytes bs)).stop? = some .misfit := by
  have hs : SizeForm.shortest bs.length = .nine := by
    rw [SizeForm.shortest, if_neg (by omega), if_neg (by omega), if_neg (by omega)]
  have hw : word 8 bs.length = .stopped .misfit := if_neg h
  have hc : compactSize bs.length = ⟨[255], some .misfit⟩ := by
    rw [compactSize_eq_append, hs]
    exact (congrArg (of [255] ++ ·) hw).trans rfl
  rw [varBytes_bytes, hc]
  rfl

theorem isFinished_varBytes {v : Value} :
    (varBytes v).IsFinished ↔ ∃ bs : Bytes, v = .bytes bs ∧ bs.length < 256 ^ 8 := by
  constructor
  · intro h
    have hr := h
    rw [varBytes] at hr
    split at hr
    · cases hr
    · obtain ⟨bs, rfl⟩ := isFinished_raw.mp (isFinished_append.mp hr).2
      exact ⟨bs, rfl, isFinished_varBytes_bytes.mp h⟩
  · rintro ⟨bs, rfl, h⟩
    exact isFinished_varBytes_bytes.mpr h

end Remit.Wire.Draft
