import Remit.Proofs.Hex
import Remit.Proofs.Key.Import
import Remit.Proofs.Text.Decoding

/-!
# Loading keys

A key is given as the bytes of its secret, in hexadecimal, or in import format, and the last two as texts or as their
bytes. Whatever text or bytes are given, they hold a secret and are loaded as the key with this secret, or they are
refused as a bad key. One thing is not refused as such: bytes that should be a text in import format and are no text.
-/

namespace Remit.PrivateKey

/-- How a key is given. -/
inductive Format where
  | bytes
  | hex
  | imported

/-- The key that a value holds. The import format has a network of its own. -/
def Format.load (format : Format) (network v : Value) : Except Error PrivateKey :=
  match format with
  | .bytes => ofValue v network
  | .hex => ofHex v network
  | .imported => ofImport v

/-- A value in the format holds a secret, for use on the last of the networks. -/
inductive Holds (network : Value) : Format → Value → Bytes → Value → Prop
  | bytes (secret : Bytes) : Holds network .bytes (.bytes secret) secret network
  | hexText {t : Text} {secret : Bytes} (h : Hex.Spells t secret) : Holds network .hex (.text t) secret network
  | hexBytes {bs secret : Bytes} (h : Hex.Spells (bs.map fun b => Fin.ofNat _ b.toNat) secret) :
      Holds network .hex (.bytes bs) secret network
  | importText (i : Import) : Holds network .imported (.text i.text) i.secret i.network
  | importBytes (i : Import) {bs : Bytes} (h : Utf8.encode i.text = .ok bs) :
      Holds network .imported (.bytes bs) i.secret i.network

/-- The value should be a text in import format and is bytes that are those of no string. -/
def IsIllegible (format : Format) (v : Value) : Prop :=
  format = .imported ∧ ∃ bs, v = .bytes bs ∧ ∀ s : String, Utf8.ofString s ≠ bs

/-- What is loaded are the keys that are held, and where none is held, that it is a bad key is the error. -/
structure Loads (result : Except Error PrivateKey) (held : PrivateKey → Prop) : Prop where
  eq_ok_iff (key : PrivateKey) : result = .ok key ↔ held key
  exists_reason {e : Error} (h : result = .error e) : ∃ reason, e = .invalidPrivateKey reason

variable {format : Format} {network used v : Value} {bs secret : Bytes} {key : PrivateKey} {t : Text} {held held' : PrivateKey → Prop}

theorem Loads.congr {result : Except Error PrivateKey} (h : Loads result held) (hh : ∀ key, held key ↔ held' key) :
    Loads result held' where
  eq_ok_iff key := (h.eq_ok_iff key).trans (hh key)
  exists_reason := h.exists_reason

theorem loads_error {reason : Error} (h : ∀ key, ¬ held key) : Loads (.error (.invalidPrivateKey reason)) held where
  eq_ok_iff key := iff_of_false (fun h => nomatch h) (h key)
  exists_reason h := ⟨reason, (Except.error.inj h).symm⟩

/-! ## Bytes -/

theorem bytes_spec (key : PrivateKey) :
    key.bytes.length = 32 ∧ 0 < Bytes.toNatBE key.bytes ∧ Bytes.toNatBE key.bytes < Curve.order := by
  rw [key.toNatBE_bytes]
  exact ⟨Bytes.length_ofNatBE _ _, key.isValid⟩

theorem loads_ofBytes (bs : Bytes) (network : Value) :
    Loads (ofBytes bs network) fun key => key.bytes = bs ∧ key.network = network where
  exists_reason := exists_reason_of_ofBytes_eq_error
  eq_ok_iff key := by
    rw [ofBytes_eq_ok]
    constructor
    · rintro ⟨hl, hs, rfl⟩
      rw [bytes, ← hs, ← hl, Bytes.ofNatBE_toNatBE]
      exact ⟨rfl, rfl⟩
    · rintro ⟨rfl, rfl⟩
      exact ⟨key.bytes_spec.1, key.toNatBE_bytes, rfl⟩

/-! ## Hexadecimal -/

/-- Digits are read of a text and of bytes, and then it makes no difference which of them it was. -/
theorem loads_ofHex (v network : Value) (decoded : Except Hex.Fault Bytes)
    (h : ofHex v network = match decoded with
      | .ok secret => ofBytes secret network
      | .error _ => .error (.invalidPrivateKey .privateKeyNotHex)) :
    Loads (ofHex v network) fun key => decoded = .ok key.bytes ∧ key.network = network := by
  cases decoded with
  | ok secret =>
    rw [h]
    exact (loads_ofBytes secret network).congr fun key => by rw [Except.ok.injEq, eq_comm]
  | error fault =>
    rw [h]
    exact loads_error fun _ h => nomatch h.1

/-! ## Import format -/

/-- What stands for a text is loaded as the text is. If the check fails, the message differs. -/
theorem loads_ofImport (hv : Base58.textOf v = .ok t) :
    Loads (ofImport v) fun key => ∃ i : Import, i.text = t ∧ i.key = key := by
  have hcheck : Base58.decodeCheckValue v = Base58.decodeCheckAs v.shown Sha256.doubleHash t := by
    rw [Base58.decodeCheckValue, hv]
    rfl
  have hloads : Loads (ofImport v) fun key => ofImport (.text t) = .ok key := by
    rcases Base58.decodeCheckAs_cases t Sha256.doubleHash with ⟨payload, hp⟩ | he
    · have himport : ofImport v = ofImport (.text t) := by
        rw [ofImport_of_decodeCheck (hp t), ofImport, hcheck, hp]
      rw [himport]
      exact ⟨fun _ => Iff.rfl, exists_reason_of_ofImport_eq_error⟩
    · obtain ⟨e, hv, hkind⟩ := he v.shown
      obtain ⟨e', ht, -⟩ := he t
      have himport : ofImport v = .error (.invalidPrivateKey e) := by
        rw [ofImport, hcheck, hv]
        cases e <;> first | rfl | cases hkind
      rw [himport, ofImport_of_error ht]
      refine loads_error fun key h => ?_
      cases h
  exact hloads.congr fun _ => ofImport_eq_ok

/-! ## What is held -/

theorem holds_bytes : Holds network .bytes (.bytes bs) secret used ↔ secret = bs ∧ used = network := by
  constructor
  · rintro ⟨⟩
    exact ⟨rfl, rfl⟩
  · rintro ⟨rfl, rfl⟩
    exact .bytes secret

theorem holds_hex_text : Holds network .hex (.text t) secret used ↔ Hex.Spells t secret ∧ used = network := by
  constructor
  · rintro ⟨⟩
    exact ⟨‹_›, rfl⟩
  · rintro ⟨hs, rfl⟩
    exact .hexText hs

theorem holds_hex_bytes : Holds network .hex (.bytes bs) secret used ↔
    Hex.Spells (bs.map fun b => Fin.ofNat _ b.toNat) secret ∧ used = network := by
  constructor
  · rintro ⟨⟩
    exact ⟨‹_›, rfl⟩
  · rintro ⟨hs, rfl⟩
    exact .hexBytes hs

theorem Import.key_eq_iff (i : Import) : i.key = key ↔ i.secret = key.bytes ∧ key.network = i.network := by
  constructor
  · rintro rfl
    exact ⟨i.bytes_key.symm, rfl⟩
  · rintro ⟨hs, hn⟩
    have hsecret := key.toNatBE_bytes
    rw [← hs] at hsecret
    obtain ⟨_, _, _⟩ := key
    cases hsecret
    cases hn
    rfl

theorem textOf_bytes_eq_ok : Base58.textOf (.bytes bs) = .ok t ↔ Utf8.encode t = .ok bs := by
  rw [← Utf8.decode_eq_ok, Base58.textOf]
  cases Utf8.decode bs with
  | ok u => rw [Except.mapError, Except.ok.injEq, Except.ok.injEq]
  | error fault => exact iff_of_false (fun h => nomatch h) (fun h => nomatch h)

theorem Holds.exists_textOf (h : Holds network .imported v secret used) : ∃ t, Base58.textOf v = .ok t := by
  obtain _ | _ | _ | i | ⟨i, henc⟩ := h
  · exact ⟨i.text, rfl⟩
  · exact ⟨i.text, textOf_bytes_eq_ok.mpr henc⟩

theorem holds_imported (hv : Base58.textOf v = .ok t) :
    Holds network .imported v secret used ↔ ∃ i : Import, i.text = t ∧ i.secret = secret ∧ used = i.network := by
  constructor
  · rintro (_ | _ | _ | i | ⟨i, henc⟩)
    · exact ⟨i, Except.ok.inj hv, rfl, rfl⟩
    · exact ⟨i, Except.ok.inj ((textOf_bytes_eq_ok.mpr henc).symm.trans hv), rfl, rfl⟩
  · rintro ⟨i, rfl, rfl, rfl⟩
    cases v with
    | text t =>
      cases hv
      exact .importText i
    | bytes bs => exact .importBytes i (textOf_bytes_eq_ok.mp hv)
    | _ => cases hv

/-! ## Illegible bytes -/

theorem exists_textOf_bytes : (∃ t, Base58.textOf (.bytes bs) = .ok t) ↔ ∃ s : String, Utf8.ofString s = bs := by
  simp only [textOf_bytes_eq_ok, ← Utf8.decode_eq_ok, Utf8.exists_decode_eq_ok]

theorem exists_textOf_of_not_isIllegible (hv : (∃ t, v = .text t) ∨ ∃ bs, v = .bytes bs)
    (hl : ¬ IsIllegible .imported v) : ∃ t, Base58.textOf v = .ok t := by
  rcases hv with ⟨t, rfl⟩ | ⟨bs, rfl⟩
  · exact ⟨t, rfl⟩
  · rw [exists_textOf_bytes]
    by_contra hnone
    exact hl ⟨rfl, bs, rfl, not_exists.mp hnone⟩

theorem IsIllegible.exists_fault (h : IsIllegible format v) (network : Value) :
    ∃ fault, format.load network v = .error (.decoding fault) := by
  obtain ⟨rfl, bs, rfl, hs⟩ := h
  cases hd : Utf8.decode bs with
  | ok t => exact absurd (Utf8.exists_decode_eq_ok.mp ⟨t, hd⟩) (not_exists.mpr hs)
  | error fault =>
    refine ⟨fault, ?_⟩
    change ofImport (.bytes bs) = _
    rw [ofImport, Base58.decodeCheckValue, Base58.textOf, hd]
    rfl

theorem IsIllegible.not_holds (h : IsIllegible format v) : ¬ Holds network format v secret used := by
  obtain ⟨rfl, bs, rfl, hs⟩ := h
  intro hholds
  obtain ⟨s, hbs⟩ := exists_textOf_bytes.mp hholds.exists_textOf
  exact hs s hbs

/-! ## All formats -/

/-- Whatever is legible is loaded if it holds a secret, or refused as a bad key. -/
theorem loads_of_not_isIllegible (network : Value) (hv : (∃ t, v = .text t) ∨ ∃ bs, v = .bytes bs)
    (hl : ¬ IsIllegible format v) :
    Loads (format.load network v) fun key => Holds network format v key.bytes key.network := by
  cases format with
  | bytes =>
    rcases hv with ⟨t, rfl⟩ | ⟨bs, rfl⟩
    · exact loads_error fun key h => nomatch h
    · exact (loads_ofBytes bs network).congr fun key => holds_bytes.symm
  | hex =>
    rcases hv with ⟨t, rfl⟩ | ⟨bs, rfl⟩
    · refine (loads_ofHex (.text t) network (Hex.decode t) rfl).congr fun key => ?_
      rw [Hex.decode_eq_ok, holds_hex_text]
    · refine (loads_ofHex (.bytes bs) network (Hex.decodeBytes bs) rfl).congr fun key => ?_
      rw [Hex.decodeBytes, Hex.decodeDigits_eq_ok, holds_hex_bytes]
  | imported =>
    obtain ⟨t, ht⟩ := exists_textOf_of_not_isIllegible hv hl
    refine (loads_ofImport ht).congr fun key => ?_
    simp only [holds_imported ht, Import.key_eq_iff]

/-- A text or bytes are loaded in a format if they hold a secret in it, and then as the key with this secret: 32 bytes
that are the number of a secret. All others are refused as a bad key, but for bytes in import format that are no text:
these fail as such. -/
theorem load_refuses_unless_illegible (format : Format) (network : Value)
    (hv : (∃ t, v = .text t) ∨ ∃ bs, v = .bytes bs) :
    (∀ key, format.load network v = .ok key ↔ Holds network format v key.bytes key.network) ∧
      (∀ key, format.load network v = .ok key → key.bytes.length = 32 ∧ 0 < Bytes.toNatBE key.bytes ∧
        Bytes.toNatBE key.bytes < Curve.order) ∧
      (((∃ key, format.load network v = .ok key) ∨
          ∃ reason, format.load network v = .error (.invalidPrivateKey reason)) ↔ ¬ IsIllegible format v) ∧
      (IsIllegible format v → ∃ fault, format.load network v = .error (.decoding fault)) := by
  by_cases hl : IsIllegible format v
  · obtain ⟨fault, hload⟩ := hl.exists_fault network
    refine ⟨fun key => iff_of_false ?_ hl.not_holds, fun key _ => key.bytes_spec,
      iff_of_false ?_ (not_not_intro hl), fun _ => ⟨fault, hload⟩⟩
    · rw [hload]
      exact fun h => nomatch h
    · rw [hload]
      rintro (⟨key, h⟩ | ⟨reason, h⟩) <;> cases h
  · have hloads := loads_of_not_isIllegible network hv hl
    refine ⟨hloads.eq_ok_iff, fun key _ => key.bytes_spec, iff_of_true ?_ hl, fun h => absurd h hl⟩
    cases h : format.load network v with
    | ok key => exact .inl ⟨key, rfl⟩
    | error e =>
      obtain ⟨reason, rfl⟩ := hloads.exists_reason h
      exact .inr ⟨reason, rfl⟩

/-- The byte `ff` alone is in no text. In hexadecimal it is a bad key, in import format it is not said to be one. -/
theorem load_refuses_unless_illegible_byte :
    IsIllegible .imported (.bytes [0xff]) ∧
      (∃ fault, Format.imported.load defaultNetwork (.bytes [0xff]) = .error (.decoding fault)) ∧
      (∀ reason, Format.imported.load defaultNetwork (.bytes [0xff]) ≠ .error (.invalidPrivateKey reason)) ∧
      ∃ reason, Format.hex.load defaultNetwork (.bytes [0xff]) = .error (.invalidPrivateKey reason) := by
  have hv : (∃ t, Value.bytes [0xff] = .text t) ∨ ∃ bs, Value.bytes [0xff] = .bytes bs := .inr ⟨_, rfl⟩
  have hill : IsIllegible .imported (.bytes [0xff]) := by
    refine ⟨rfl, [0xff], rfl, not_exists.mp ?_⟩
    rw [← Utf8.exists_decode_eq_ok]
    exact fun ⟨_, h⟩ => nomatch h
  obtain ⟨-, -, himported, hfault⟩ := load_refuses_unless_illegible .imported defaultNetwork hv
  obtain ⟨hheld, -, hhex, -⟩ := load_refuses_unless_illegible .hex defaultNetwork hv
  refine ⟨hill, hfault hill, fun reason h => himported.mp (.inr ⟨reason, h⟩) hill, ?_⟩
  rcases hhex.mpr fun h => nomatch h.1 with ⟨key, hkey⟩ | hrefused
  · obtain ⟨hspells, -⟩ := holds_hex_bytes.mp ((hheld key).mp hkey)
    cases (Hex.decodeDigits_eq_ok.mpr hspells)
  · exact hrefused

end Remit.PrivateKey
