import Remit.Json.Printer
import Remit.Json.Reader
import Remit.Proofs.Text.Decimal

/-!
# Space, strings and numbers in JSON

What a value's text is made of. Space is skipped up to where the value begins. A text that needs no escapes is read from
between its quotes, and a natural number up to where its digits end, if what follows does not go on with a number.
-/

namespace Remit.Json

/-! ## Space -/

/-- The text is nothing but space. -/
def IsGap (t : Text) : Prop := ∀ c ∈ t, isSpace c = true

/-- The text does not begin with space. -/
def StartsAtOnce (t : Text) : Prop := ∀ c ∈ t.head?, isSpace c = false

theorem skipSpace_gap {gap : Text} (hg : IsGap gap) {t : Text} (ht : StartsAtOnce t) (position : Nat) :
    skipSpace position (gap ++ t) = (position + gap.length, t) := by
  have hw : (gap ++ t).takeWhile isSpace = gap := by
    rw [List.takeWhile_append_of_pos hg]
    cases t with
    | nil => rw [List.takeWhile_nil, List.append_nil]
    | cons c t => rw [List.takeWhile_cons_of_neg (by rw [ht c rfl]; exact Bool.false_ne_true), List.append_nil]
  rw [skipSpace, hw, List.drop_left]

theorem isGap_nil : IsGap [] := fun _ h => nomatch h

theorem skipSpace_of_startsAtOnce {t : Text} (h : StartsAtOnce t) (position : Nat) :
    skipSpace position t = (position, t) := skipSpace_gap isGap_nil h position

theorem isGap_lineBreak (layout : Layout) (depth : Nat) : IsGap (layout.lineBreak depth) := by
  rw [Layout.lineBreak]
  cases layout.indent with
  | none => exact isGap_nil
  | some n =>
    rintro c (_ | ⟨_, hc⟩)
    · rfl
    · rw [(List.mem_replicate.mp hc).2]
      rfl

theorem exists_separator_eq (layout : Layout) (depth : Nat) :
    ∃ gap, IsGap gap ∧ layout.separator depth = CodePoint.ofChar ',' :: gap := by
  rw [Layout.separator]
  cases layout.indent with
  | none => exact ⟨[CodePoint.ofChar ' '], by simp [IsGap, isSpace], rfl⟩
  | some n => exact ⟨layout.lineBreak depth, isGap_lineBreak layout depth, rfl⟩

/-! ## Strings -/

/-- The code point is written in a string as it is. -/
def IsVerbatim (c : CodePoint) : Prop := 0x20 ≤ c.val ∧ c.val < 0x7f ∧ c ≠ CodePoint.ofChar '"' ∧ c ≠ CodePoint.ofChar '\\'

instance : DecidablePred IsVerbatim := fun _ => inferInstanceAs (Decidable (_ ∧ _))

theorem IsVerbatim.stringPart {c : CodePoint} (h : IsVerbatim c) : stringPart c = [c] := by
  obtain ⟨h₀, h₁, hq, hb⟩ := h
  have hlow {d : CodePoint} (hd : d.val < 0x20) : c ≠ d := by
    rintro rfl
    omega
  rw [Json.stringPart, if_neg hq, if_neg hb, if_neg (hlow (by decide)), if_neg (hlow (by decide)),
    if_neg (hlow (by decide)), if_neg (by omega), if_neg (by omega), if_pos ⟨h₀, h₁⟩]

theorem string_eq {t : Text} (h : ∀ c ∈ t, IsVerbatim c) :
    string t = CodePoint.ofChar '"' :: (t ++ [CodePoint.ofChar '"']) := by
  have ht : t.flatMap stringPart = t := by
    induction t with
    | nil => rfl
    | cons c t ih =>
      rw [List.flatMap_cons, (h c List.mem_cons_self).stringPart, ih fun d hd => h d (List.mem_cons_of_mem c hd)]
      rfl
  rw [string, ht]
  rfl

theorem readString_quote (start fuel position : Nat) (done rest : Text) :
    readString start (fuel + 1) position done (CodePoint.ofChar '"' :: rest) = .ok (done.reverse, position + 1, rest) := by
  rw [readString.eq_def]
  exact if_pos rfl

theorem IsVerbatim.readString_cons {c : CodePoint} (h : IsVerbatim c) (start fuel position : Nat) (done rest : Text) :
    readString start (fuel + 1) position done (c :: rest) = readString start fuel (position + 1) (c :: done) rest := by
  obtain ⟨h₀, -, hq, hb⟩ := h
  rw [readString.eq_def]
  dsimp only
  rw [if_neg hq, if_neg (by omega), if_pos hb]

theorem readString_verbatim (start : Nat) {t : Text} (h : ∀ c ∈ t, IsVerbatim c) {fuel : Nat} (hf : t.length < fuel)
    (position : Nat) (done rest : Text) :
    readString start fuel position done (t ++ CodePoint.ofChar '"' :: rest) =
      .ok (done.reverse ++ t, position + t.length + 1, rest) := by
  induction t generalizing fuel position done with
  | nil =>
    obtain _ | fuel := fuel
    · cases hf
    · rw [List.nil_append, readString_quote, List.append_nil]
      rfl
  | cons c t ih =>
    obtain _ | fuel := fuel
    · cases hf
    · rw [List.cons_append, (h c List.mem_cons_self).readString_cons,
        ih (fun d hd => h d (List.mem_cons_of_mem c hd)) (Nat.lt_of_succ_lt_succ hf), List.reverse_cons,
        List.append_assoc, List.length_cons]
      congr 3
      omega

/-! ## Numbers -/

/-- The text does not go on with a number that stands in front of it. -/
def EndsNumber (t : Text) : Prop :=
  ∀ c ∈ t.head?, c.isAsciiDigit = false ∧ c ≠ CodePoint.ofChar '.' ∧ c ≠ CodePoint.ofChar 'e' ∧ c ≠ CodePoint.ofChar 'E'

theorem digitsValue_ofNat (n : Nat) : digitsValue (Text.ofNat n) = n := by
  rw [digitsValue, Text.ofNat, List.foldl_map]
  simp only [CodePoint.val_ofChar]
  exact Nat.ofDigitChars_ten_toDigits

/-- A number with a zero in front is zero. -/
theorem eq_zero_of_head?_ofNat {n : Nat} (h : (Text.ofNat n).head? = some (CodePoint.ofChar '0')) : n = 0 := by
  rw [Text.ofNat, List.head?_map, Option.map_eq_some_iff] at h
  obtain ⟨c, hc, h⟩ := h
  obtain rfl := CodePoint.ofChar_injective h
  induction n using Nat.strongRecOn with
  | ind n ih =>
    obtain hn | hn := Nat.lt_or_ge n 10
    · rw [Nat.toDigits_of_lt_base hn] at hc
      have hsmall : ∀ m < 10, [Nat.digitChar m].head? = some '0' → m = 0 := by decide
      exact hsmall n hn hc
    · rw [Nat.toDigits_of_base_le (by decide) hn, List.head?_append_of_ne_nil _ Nat.toDigits_ne_nil] at hc
      have := ih (n / 10) (by omega) hc
      omega

theorem wholePart_ofNat (n : Nat) {t : Text} (ht : EndsNumber t) : wholePart (Text.ofNat n ++ t) = Text.ofNat n := by
  have hd : digits (Text.ofNat n ++ t) = Text.ofNat n := by
    refine Text.takeWhile_ofNat_append n ?_
    rw [Text.startsWithDigit]
    cases t with
    | nil => rfl
    | cons c t => exact (ht c rfl).1
  cases hn : Text.ofNat n with
  | nil =>
    rw [Text.ofNat, List.map_eq_nil_iff] at hn
    exact absurd hn Nat.toDigits_ne_nil
  | cons c run =>
    rw [hn] at hd
    rw [List.cons_append, wholePart]
    split
    case isTrue hc =>
      obtain rfl : n = 0 := eq_zero_of_head?_ofNat (by rw [hn, hc]; rfl)
      obtain ⟨rfl, rfl⟩ := List.cons.inj hn
      rfl
    case isFalse => exact hd

theorem exists_ofNat_eq_cons (n : Nat) : ∃ c t, Text.ofNat n = c :: t ∧ c.isAsciiDigit = true := by
  have h := Text.all_isAsciiDigit_ofNat n
  cases hn : Text.ofNat n with
  | nil =>
    rw [Text.ofNat, List.map_eq_nil_iff] at hn
    exact absurd hn Nat.toDigits_ne_nil
  | cons c t =>
    rw [hn, List.all_cons, Bool.and_eq_true] at h
    exact ⟨c, t, rfl, h.1⟩

theorem ne_of_isAsciiDigit {c d : CodePoint} (hc : c.isAsciiDigit = true) (hd : d.isAsciiDigit = false) : c ≠ d := by
  rintro rfl
  rw [hc] at hd
  cases hd

theorem fractionPart_of_endsNumber {t : Text} (ht : EndsNumber t) : fractionPart t = [] := by
  cases t with
  | nil => rfl
  | cons c t => exact if_neg (ht c rfl).2.1

theorem exponentPart_of_endsNumber {t : Text} (ht : EndsNumber t) : exponentPart t = none := by
  cases t with
  | nil => rfl
  | cons c t =>
    obtain ⟨-, -, he, hE⟩ := ht c rfl
    rw [exponentPart.eq_def]
    exact if_neg (by simp [he, hE])

theorem readNumber_ofNat {n : Nat} (hn : (Text.ofNat n).length ≤ Numeral.maxDigits) {t : Text} (ht : EndsNumber t)
    (position : Nat) :
    readNumber position (Text.ofNat n ++ t) = .ok (some (.int n, position + (Text.ofNat n).length, t)) := by
  obtain ⟨c, run, hc, hdigit⟩ := exists_ofNat_eq_cons n
  have hminus : c ≠ CodePoint.ofChar '-' := ne_of_isAsciiDigit hdigit (by decide)
  have hwhole := wholePart_ofNat n ht
  rw [hc] at hwhole hn ⊢
  rw [readNumber.eq_def, List.cons_append]
  dsimp only
  rw [if_neg hminus]
  have hvalue : digitsValue (c :: run) = n := hc ▸ digitsValue_ofNat n
  simp only [← List.cons_append, hwhole, List.drop_left, fractionPart_of_endsNumber ht, List.isEmpty_nil, if_true,
    List.drop_zero, exponentPart_of_endsNumber ht, Option.isNone_none, Bool.and_self, hvalue]
  rw [if_neg (by simp), if_neg (Nat.not_lt.mpr hn)]
  rfl

/-- No word begins with a digit. -/
theorem afterWord?_eq_none {word : String}
    (hw : (Text.ofString word).head?.any (fun d => !d.isAsciiDigit) = true) {c : CodePoint}
    (hc : c.isAsciiDigit = true) (t : Text) : afterWord? word (c :: t) = none := by
  rw [afterWord?]
  cases h : Text.ofString word with
  | nil =>
    rw [h] at hw
    cases hw
  | cons d w =>
    rw [h] at hw
    have hne : c ≠ d := ne_of_isAsciiDigit hc (Bool.not_eq_true' _ ▸ hw)
    exact if_neg fun e => hne (List.cons.inj e).1

theorem readValue_ofNat {n : Nat} (hn : (Text.ofNat n).length ≤ Numeral.maxDigits) {t : Text} (ht : EndsNumber t)
    (fuel position : Nat) :
    readValue (fuel + 1) position (Text.ofNat n ++ t) = .ok (.int n, position + (Text.ofNat n).length, t) := by
  have hread := readNumber_ofNat hn ht position
  obtain ⟨c, run, hc, hdigit⟩ := exists_ofNat_eq_cons n
  rw [hc, List.cons_append] at hread ⊢
  have hne {d : CodePoint} (hd : d.isAsciiDigit = false) : c ≠ d := ne_of_isAsciiDigit hdigit hd
  rw [readValue, if_neg (hne (by decide)), if_neg (hne (by decide)), if_neg (hne (by decide)), readScalar]
  simp (disch := decide) only [List.findSome?_cons, List.findSome?_nil, afterWord?_eq_none _ hdigit, Option.map_none,
    hread]

/-! ## Where values begin and end -/

theorem endsNumber_comma (t : Text) : EndsNumber (CodePoint.ofChar ',' :: t) := by
  rintro _ ⟨⟩
  decide

theorem startsAtOnce_cons {c : CodePoint} (h : isSpace c = false) (t : Text) : StartsAtOnce (c :: t) := by
  rintro _ ⟨⟩
  exact h

theorem endsNumber_gap {gap : Text} (hg : IsGap gap) {c : CodePoint} (hc : EndsNumber [c]) (t : Text) :
    EndsNumber (gap ++ c :: t) := by
  cases gap with
  | nil => exact hc
  | cons d gap =>
    rintro _ ⟨⟩
    have hd := hg d List.mem_cons_self
    simp only [isSpace, Bool.or_eq_true, decide_eq_true_eq] at hd
    obtain ((rfl | rfl) | rfl) | rfl := hd <;> decide

/-- The text begins like a number, a string, a list or a mapping. -/
def StartsValue (t : Text) : Prop :=
  ∃ c rest, t = c :: rest ∧
    (c.isAsciiDigit = true ∨ c = CodePoint.ofChar '"' ∨ c = CodePoint.ofChar '[' ∨ c = CodePoint.ofChar '\x7b')

namespace StartsValue

variable {t : Text}

theorem append (h : StartsValue t) (rest : Text) : StartsValue (t ++ rest) := by
  obtain ⟨c, t, rfl, hc⟩ := h
  exact ⟨c, t ++ rest, rfl, hc⟩

/-- What is true of none of the code points that a value begins with is not true of the first one. -/
theorem head_ne (h : StartsValue t) {d : CodePoint} (hd : d.isAsciiDigit = false)
    (hne : CodePoint.ofChar '"' ≠ d ∧ CodePoint.ofChar '[' ≠ d ∧ CodePoint.ofChar '\x7b' ≠ d) :
    ∃ c rest, t = c :: rest ∧ c ≠ d := by
  obtain ⟨c, rest, rfl, hc | rfl | rfl | rfl⟩ := h
  · exact ⟨c, rest, rfl, ne_of_isAsciiDigit hc hd⟩
  · exact ⟨_, rest, rfl, hne.1⟩
  · exact ⟨_, rest, rfl, hne.2.1⟩
  · exact ⟨_, rest, rfl, hne.2.2⟩

theorem startsAtOnce (h : StartsValue t) : StartsAtOnce t := by
  obtain ⟨c, rest, rfl, hc | rfl | rfl | rfl⟩ := h
  · refine startsAtOnce_cons ?_ rest
    have hne {d : CodePoint} (hd : d.isAsciiDigit = false) : decide (c = d) = false :=
      decide_eq_false (ne_of_isAsciiDigit hc hd)
    rw [isSpace, hne (by decide), hne (by decide), hne (by decide), hne (by decide)]
    rfl
  · exact startsAtOnce_cons (by decide) rest
  · exact startsAtOnce_cons (by decide) rest
  · exact startsAtOnce_cons (by decide) rest

end StartsValue

end Remit.Json
