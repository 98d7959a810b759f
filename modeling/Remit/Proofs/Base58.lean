import Mathlib.Data.List.GetD
import Remit.Base58
import Remit.Proofs.Bytes

/-!
# Base 58

A numeral is a text of digits that is not empty. Bytes and numerals stand for each other: both are zeros in front of a
number, written in base 256 and in base 58. With a check at the end, a text is read if and only if it is what is written
of some payload, and this payload is what is read.
-/

namespace Remit

/-- Does the error say that a text is no numeral in base 58, or that its check fails? -/
def Error.isBase58 : Error → Bool
  | .base58Empty | .base58Character _ | .base58Checksum _ => true
  | _ => false

namespace Base58

variable {ds : List ℕ} {t : Text} {bs : Bytes}

/-! ## Digits -/

theorem digit?_digit : ∀ n : Fin 58, digit? (digit n) = some n.val := by decide

theorem digit?_eq_none {c : CodePoint} : digit? c = none ↔ c ∉ alphabet := List.idxOf?_eq_none_iff

theorem digit_mem_alphabet : ∀ n : Fin 58, digit n ∈ alphabet := by decide

/-- The place of a digit in the alphabet. -/
theorem idxOf_lt {c : CodePoint} (h : c ∈ alphabet) : alphabet.idxOf c < 58 := List.idxOf_lt_length_of_mem h

theorem digit_idxOf {c : CodePoint} (h : c ∈ alphabet) : digit (alphabet.idxOf c) = c := by
  have hl := List.idxOf_lt_length_of_mem h
  rw [digit, List.getD_eq_getElem _ _ hl, List.getElem_idxOf hl]

theorem digit_beq_zero {d : ℕ} (h : d < 58) : (digit d == digit 0) = (d == 0) := by
  have hall : ∀ n : Fin 58, (digit n == digit 0) = (n.val == 0) := by decide
  exact hall ⟨d, h⟩

/-! ## Writing -/

theorem digits_eq {fuel n : ℕ} (h : n < 58 ^ fuel) : digits fuel n = (Nat.digits 58 n).map digit := by
  induction fuel generalizing n with
  | zero =>
    obtain rfl : n = 0 := Nat.lt_one_iff.mp h
    rfl
  | succ fuel ih =>
    rw [digits]
    split
    case isTrue hn => rw [hn, Nat.digits_zero, List.map_nil]
    case isFalse hn =>
      have hdiv : n / 58 < 58 ^ fuel := Nat.div_lt_of_lt_mul (by rwa [← Nat.pow_succ'])
      rw [ih hdiv, Nat.digits_def' (by decide) (Nat.pos_of_ne_zero hn), List.map_cons]

theorem zeros_map_toNat (bs : Bytes) : Radix.zeros (bs.map UInt8.toNat) = (bs.takeWhile (· == 0)).length := by
  have hzero : (· == 0) ∘ UInt8.toNat = (· == (0 : UInt8)) := by
    funext b
    rw [Function.comp_apply, Bool.eq_iff_iff, beq_iff_eq, beq_iff_eq, ← UInt8.toNat_inj]
    rfl
  rw [Radix.zeros, List.takeWhile_map, List.length_map, hzero]

/-- Bytes are digits in base 256 that are written in base 58. -/
theorem encode_eq (bs : Bytes) : encode bs = (Radix.convert 256 58 (bs.map UInt8.toNat)).map digit := by
  have hfuel : Bytes.toNatBE bs < 58 ^ (2 * bs.length) := by
    apply Nat.lt_of_lt_of_le (Bytes.toNatBE_lt bs)
    rw [Nat.pow_mul]
    exact Nat.pow_le_pow_left (by decide) _
  rw [encode, digits_eq hfuel, Radix.convert, Radix.numeral, zeros_map_toNat, ← Bytes.toNatBE_eq_value, List.map_append,
    List.map_replicate, List.map_reverse]

/-! ## Reading -/

theorem zeros_eq (h : ∀ d ∈ ds, d < 58) : ((ds.map digit).takeWhile (· == digit 0)).length = Radix.zeros ds := by
  rw [Radix.zeros]
  induction ds with
  | nil => rfl
  | cons d ds ih =>
    rw [List.forall_mem_cons] at h
    rw [List.map_cons, List.takeWhile_cons, List.takeWhile_cons, digit_beq_zero h.1]
    split
    case isTrue => rw [List.length_cons, List.length_cons, ih h.2]
    case isFalse => rfl

theorem value_map_digit (h : ∀ d ∈ ds, d < 58) : value (ds.map digit) = .ok (Radix.value 58 ds) := by
  rw [value, Radix.value_eq_foldl]
  generalize 0 = n
  induction ds generalizing n with
  | nil => rfl
  | cons d ds ih =>
    rw [List.forall_mem_cons] at h
    rw [List.map_cons, List.foldlM_cons, digit?_digit ⟨d, h.1⟩]
    exact ih h.2 _

/-- Digits of base 58 are written in base 256. -/
theorem decode_map_digit (hne : ds ≠ []) (h : ∀ d ∈ ds, d < 58) :
    decode (ds.map digit) = .ok ((Radix.convert 58 256 ds).map UInt8.ofNat) := by
  have hempty : (ds.map digit).isEmpty = false := by simpa using hne
  rw [decode, hempty, value_map_digit h, zeros_eq h, Radix.convert, Radix.numeral, List.map_append, List.map_replicate,
    ← Bytes.minimalBE_eq]
  rfl

/-- A text is a numeral if it is not empty and holds nothing but digits. -/
def IsNumeral (t : Text) : Prop := t ≠ [] ∧ ∀ c ∈ t, c ∈ alphabet

instance (t : Text) : Decidable (IsNumeral t) :=
  -- The digits in the text are looked at, not all code points.
  have : Decidable (∀ c ∈ t, c ∈ alphabet) := t.decidableBAll _
  inferInstanceAs (Decidable (t ≠ [] ∧ ∀ c ∈ t, c ∈ alphabet))

theorem isNumeral_map_digit (hne : ds ≠ []) (h : ∀ d ∈ ds, d < 58) : IsNumeral (ds.map digit) := by
  refine ⟨fun hnil => hne (List.map_eq_nil_iff.mp hnil), fun c hc => ?_⟩
  obtain ⟨d, hd, rfl⟩ := List.mem_map.mp hc
  exact digit_mem_alphabet ⟨d, h d hd⟩

theorem exists_map_digit (h : ∀ c ∈ t, c ∈ alphabet) : ∃ ds : List ℕ, (∀ d ∈ ds, d < 58) ∧ ds.map digit = t := by
  refine ⟨t.map alphabet.idxOf, fun d hd => ?_, ?_⟩
  · obtain ⟨c, hc, rfl⟩ := List.mem_map.mp hd
    exact idxOf_lt (h c hc)
  · have hid : ∀ c ∈ t, (digit ∘ alphabet.idxOf) c = id c := fun c hc => digit_idxOf (h c hc)
    rw [List.map_map, List.map_congr_left hid, List.map_id]

/-- Why a text is no numeral: it is empty, or `c` is the first code point in it that is no digit. -/
inductive Refuses : Text → Error → Prop
  | empty : Refuses [] .base58Empty
  | character {before after : Text} {c : CodePoint} (hb : ∀ d ∈ before, d ∈ alphabet) (hc : c ∉ alphabet) :
      Refuses (before ++ c :: after) (.base58Character c)

theorem Refuses.isBase58 {e : Error} (h : Refuses t e) : e.isBase58 = true := by cases h <;> rfl

theorem Refuses.decode_eq {e : Error} (h : Refuses t e) : decode t = .error e := by
  cases h with
  | empty => rfl
  | @character before after c hb hc =>
    obtain ⟨ds, hds, rfl⟩ := exists_map_digit hb
    have hempty : (ds.map digit ++ c :: after).isEmpty = false := by simp
    have hbefore := value_map_digit hds
    have hvalue : value (ds.map digit ++ c :: after) = .error (.base58Character c) := by
      rw [value] at hbefore ⊢
      rw [List.foldlM_append, hbefore]
      simp only [Bind.bind, Except.bind, List.foldlM_cons, digit?_eq_none.mpr hc]
    rw [decode, hempty, hvalue]
    rfl

theorem exists_refuses (h : ¬ IsNumeral t) : ∃ e, Refuses t e := by
  by_cases hne : t = []
  · subst hne
    exact ⟨_, .empty⟩
  cases hf : t.find? (fun c => decide (c ∉ alphabet)) with
  | none =>
    refine absurd ⟨hne, fun c hc => ?_⟩ h
    simpa using List.find?_eq_none.mp hf c hc
  | some c =>
    obtain ⟨hc, before, after, rfl, hb⟩ := List.find?_eq_some_iff_append.mp hf
    exact ⟨_, .character (fun d hd => by simpa using hb d hd) (by simpa using hc)⟩

/-! ## There and back -/

/-- Bytes that are not empty are written with digits of base 58, one at least. -/
theorem exists_encode_eq_map_digit (hne : bs ≠ []) :
    ∃ ds, ds ≠ [] ∧ (∀ d ∈ ds, d < 58) ∧ encode bs = ds.map digit ∧ (Radix.convert 58 256 ds).map UInt8.ofNat = bs := by
  have hne' : bs.map UInt8.toNat ≠ [] := fun h => hne (List.map_eq_nil_iff.mp h)
  refine ⟨Radix.convert 256 58 (bs.map UInt8.toNat), ?_, fun d hd => ?_, encode_eq bs, ?_⟩
  · exact Radix.convert_ne_nil (by decide) bs.toNat_lt_of_mem hne' 58
  · exact Radix.lt_of_mem_convert (by decide) hd
  · rw [Radix.convert_convert (by decide) bs.toNat_lt_of_mem, Bytes.map_ofNat_map_toNat]

theorem isNumeral_encode (hne : bs ≠ []) : IsNumeral (encode bs) := by
  obtain ⟨ds, hds, hlt, henc, -⟩ := exists_encode_eq_map_digit hne
  rw [henc]
  exact isNumeral_map_digit hds hlt

theorem decode_encode (hne : bs ≠ []) : decode (encode bs) = .ok bs := by
  obtain ⟨ds, hds, hlt, henc, hback⟩ := exists_encode_eq_map_digit hne
  rw [henc, decode_map_digit hds hlt, hback]

theorem exists_encode_eq (h : IsNumeral t) : ∃ bs, bs ≠ [] ∧ encode bs = t := by
  obtain ⟨ds, hds, rfl⟩ := exists_map_digit h.2
  have hne : ds ≠ [] := fun hnil => h.1 (by rw [hnil, List.map_nil])
  refine ⟨(Radix.convert 58 256 ds).map UInt8.ofNat, ?_, ?_⟩
  · exact fun hnil => Radix.convert_ne_nil (by decide) hds hne 256 (List.map_eq_nil_iff.mp hnil)
  · rw [encode_eq, Bytes.map_toNat_map_ofNat fun d hd => Radix.lt_of_mem_convert (by decide) hd,
      Radix.convert_convert (by decide) hds]

/-- What is read is what is written so. -/
theorem decode_eq_ok : decode t = .ok bs ↔ bs ≠ [] ∧ encode bs = t := by
  constructor
  · intro h
    by_cases ht : IsNumeral t
    · obtain ⟨bs', hne, rfl⟩ := exists_encode_eq ht
      rw [decode_encode hne] at h
      cases h
      exact ⟨hne, rfl⟩
    · obtain ⟨e, he⟩ := exists_refuses ht
      rw [he.decode_eq] at h
      cases h
  · rintro ⟨hne, rfl⟩
    exact decode_encode hne

/-- Bytes and numerals correspond one to one: each is read or written of the other and gives it back. All other texts
are refused, for being empty or for the first of their code points that is no digit. -/
theorem decode_inverts_encode (bs : Bytes) (t : Text) :
    (bs ≠ [] → IsNumeral (encode bs) ∧ decode (encode bs) = .ok bs) ∧
      (IsNumeral t → ∃ cs, decode t = .ok cs ∧ cs ≠ [] ∧ encode cs = t) ∧
      (¬ IsNumeral t → ∃ e, decode t = .error e ∧ e.isBase58 = true ∧ Refuses t e) := by
  refine ⟨fun hne => ⟨isNumeral_encode hne, decode_encode hne⟩, fun ht => ?_, fun ht => ?_⟩
  · obtain ⟨cs, hne, hcs⟩ := exists_encode_eq ht
    exact ⟨cs, decode_eq_ok.mpr ⟨hne, hcs⟩, hne, hcs⟩
  · obtain ⟨e, he⟩ := exists_refuses ht
    exact ⟨e, he.decode_eq, he.isBase58, he⟩

/-- Two zero bytes and a one are the numeral 112, and a text with a letter that looks like a figure is none. -/
theorem decode_inverts_encode_zeros :
    encode [0, 0, 1] = ("112" : Text) ∧ decode (encode [0, 0, 1]) = .ok [0, 0, 1] ∧
      (∃ cs, decode ("112" : Text) = .ok cs ∧ cs ≠ [] ∧ encode cs = ("112" : Text)) ∧
      ∃ e, decode ("1Il" : Text) = .error e ∧ e.isBase58 = true ∧ Refuses ("1Il" : Text) e := by
  obtain ⟨hwritten, hread, -⟩ := decode_inverts_encode [0, 0, 1] "112"
  obtain ⟨-, -, hrefused⟩ := decode_inverts_encode [0, 0, 1] "1Il"
  exact ⟨by decide, (hwritten (by decide)).2, hread (by decide), hrefused (by decide)⟩

/-! ## Checks -/

variable {hash : Bytes → Bytes} {payload : Bytes}

/-- A payload is read if it stands in front of its check. -/
theorem decodeCheck_eq_ok_of_decode (hh : ∀ bs, 4 ≤ (hash bs).length) :
    decodeCheck t hash = .ok payload ↔ decode t = .ok (payload ++ (hash payload).take 4) := by
  have hlength (p : Bytes) : (p ++ (hash p).take 4).length - 4 = p.length := by
    rw [List.length_append, List.length_take_of_le (hh p), Nat.add_sub_cancel]
  rw [decodeCheck, decodeCheckAs]
  cases decode t with
  | error e => exact iff_of_false (fun h => nomatch h) (fun h => nomatch h)
  | ok bs =>
    simp only [Bind.bind, Except.bind, Pure.pure, Except.pure, beq_iff_eq, Except.ok.injEq]
    constructor
    · intro h
      split at h
      case isTrue hcheck =>
        cases h
        rw [← hcheck, List.take_append_drop]
      case isFalse => cases h
    · rintro rfl
      rw [hlength, List.take_left, List.drop_left, if_pos rfl]

theorem decodeCheck_eq_ok (hh : ∀ bs, 4 ≤ (hash bs).length) :
    decodeCheck t hash = .ok payload ↔ t = encodeCheck payload hash := by
  have hne : payload ++ (hash payload).take 4 ≠ [] := by
    apply List.ne_nil_of_length_pos
    rw [List.length_append, List.length_take_of_le (hh payload)]
    omega
  rw [decodeCheck_eq_ok_of_decode hh, decode_eq_ok, encodeCheck, and_iff_right hne, eq_comm]

/-- Whatever is not read is refused as a numeral or for its check. -/
theorem decodeCheck_cases (t : Text) (hash : Bytes → Bytes) :
    (∃ payload, decodeCheck t hash = .ok payload) ∨
      ∃ e, decodeCheck t hash = .error e ∧ (Refuses t e ∨ IsNumeral t ∧ e = .base58Checksum t) := by
  by_cases ht : IsNumeral t
  · obtain ⟨bs, hne, rfl⟩ := exists_encode_eq ht
    rw [decodeCheck, decodeCheckAs, decode_encode hne]
    simp only [Bind.bind, Except.bind, Pure.pure, Except.pure]
    split
    · exact .inl ⟨_, rfl⟩
    · exact .inr ⟨_, rfl, .inr ⟨ht, rfl⟩⟩
  · obtain ⟨e, he⟩ := exists_refuses ht
    rw [decodeCheck, decodeCheckAs, he.decode_eq]
    exact .inr ⟨e, rfl, .inl he⟩

theorem isBase58_of_decodeCheck {e : Error} (h : decodeCheck t hash = .error e) : e.isBase58 = true := by
  rcases decodeCheck_cases t hash with ⟨payload, hp⟩ | ⟨e', he, hr⟩
  · cases h.symm.trans hp
  · cases h.symm.trans he
    rcases hr with hr | ⟨-, rfl⟩
    · exact hr.isBase58
    · rfl

/-- The name under which a text is shown is a matter of the error alone. -/
theorem decodeCheckAs_cases (t : Text) (hash : Bytes → Bytes) :
    (∃ payload, ∀ shown, decodeCheckAs shown hash t = .ok payload) ∨
      ∀ shown, ∃ e, decodeCheckAs shown hash t = .error e ∧ e.isBase58 = true := by
  by_cases ht : IsNumeral t
  · obtain ⟨bs, hne, rfl⟩ := exists_encode_eq ht
    simp only [decodeCheckAs, decode_encode hne, Bind.bind, Except.bind, Pure.pure, Except.pure]
    split
    case isTrue => exact .inl ⟨_, fun _ => rfl⟩
    case isFalse => exact .inr fun _ => ⟨_, rfl, rfl⟩
  · obtain ⟨e, he⟩ := exists_refuses ht
    refine .inr fun shown => ⟨e, ?_, he.isBase58⟩
    rw [decodeCheckAs, he.decode_eq]
    rfl

theorem four_le_length_doubleHash (bs : Bytes) : 4 ≤ (Sha256.doubleHash bs).length := by
  rw [Sha256.length_doubleHash]
  decide

theorem encodeCheck_injective {payload' : Bytes} (h : encodeCheck payload = encodeCheck payload') :
    payload = payload' := by
  have hp := (decodeCheck_eq_ok four_le_length_doubleHash).mpr h
  rw [(decodeCheck_eq_ok four_le_length_doubleHash).mpr rfl] at hp
  exact Except.ok.inj hp

/-- The empty payload is written as its check alone. -/
theorem encodeCheck_nil : encodeCheck [] = ("3QJmnh" : Text) := by decide +kernel

/-- With any hash of at least four bytes, a payload is read of a text if and only if this text is what is written of it.
Texts that are written of no payload are refused, those with too few bytes for a check among them. -/
theorem decodeCheck_inverts_encodeCheck {hash : Bytes → Bytes} (hh : ∀ bs, 4 ≤ (hash bs).length) (t : Text) :
    (∀ payload, decodeCheck t hash = .ok payload ↔ t = encodeCheck payload hash) ∧
      ((∀ payload, t ≠ encodeCheck payload hash) → ∃ e, decodeCheck t hash = .error e ∧ e.isBase58 = true ∧
        (Refuses t e ∨ IsNumeral t ∧ e = .base58Checksum t)) ∧
      ∀ bs, decode t = .ok bs → bs.length < 4 → decodeCheck t hash = .error (.base58Checksum t) := by
  refine ⟨fun payload => decodeCheck_eq_ok hh, fun hnone => ?_, fun bs hbs hlen => ?_⟩
  · rcases decodeCheck_cases t hash with ⟨payload, hp⟩ | ⟨e, he, hr⟩
    · exact absurd ((decodeCheck_eq_ok hh).mp hp) (hnone payload)
    · exact ⟨e, he, isBase58_of_decodeCheck he, hr⟩
  · rcases decodeCheck_cases t hash with ⟨payload, hp⟩ | ⟨e, he, hr | ⟨-, rfl⟩⟩
    · rw [(decodeCheck_eq_ok_of_decode hh).mp hp] at hbs
      cases hbs
      rw [List.length_append, List.length_take_of_le (hh payload)] at hlen
      omega
    · cases hr.decode_eq.symm.trans hbs
    · exact he

/-- The empty payload with a check of the usual hash, and three bytes, which are too few for a check. -/
theorem decodeCheck_inverts_encodeCheck_empty :
    (∀ bs, 4 ≤ (Sha256.doubleHash bs).length) ∧ encodeCheck [] = ("3QJmnh" : Text) ∧
      decodeCheck ("3QJmnh" : Text) = .ok [] ∧ decodeCheck ("112" : Text) = .error (.base58Checksum "112") ∧
      ∃ e, decodeCheck ("112" : Text) = .error e ∧ e.isBase58 = true := by
  have hh := four_le_length_doubleHash
  have hread := ((decodeCheck_inverts_encodeCheck hh "3QJmnh").1 []).mpr encodeCheck_nil.symm
  obtain ⟨hiff, hrefused, hshort⟩ := decodeCheck_inverts_encodeCheck hh "112"
  have herror := hshort [0, 0, 1] (decode_eq_ok.mpr (by decide)) (by decide)
  have hnone : ∀ payload, ("112" : Text) ≠ encodeCheck payload := by
    intro payload hp
    rw [← hiff payload, herror] at hp
    cases hp
  obtain ⟨e, he, hkind, -⟩ := hrefused hnone
  exact ⟨hh, encodeCheck_nil, hread, herror, e, he, hkind⟩

end Base58

end Remit
