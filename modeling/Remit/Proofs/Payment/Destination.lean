import Remit.Proofs.Payment.Response

/-!
# Scripts that answers name

An answer names a script if it is an object whose only field holds an even number of hexadecimal digits, and some. Just
these answers are read. What is read then is not empty, and written out again it is the text in small letters, so the
script to pay to is the one that was named. Any other answer is refused for the first check that it does not pass.
-/

namespace Remit.Payment.DestinationResponse

open Check (AllHold FirstFault)
open Response

/-- The answer is an object with the one field `output`, whose text is an even number of hexadecimal digits, and some. -/
structure Names (data : Value) (t : Text) : Prop where
  eq_mapping : data = .mapping [("output", .text t)]
  ne_nil : t ≠ []
  even : t.length % 2 = 0
  digits : ∀ c ∈ t, Hex.IsDigit c

variable {data : Value} {t : Text}

theorem Names.field? (h : Names data t) : data.field? "output" = some (.text t) := by
  rw [h.eq_mapping, Value.field?_singleton]

theorem Names.textUnder (h : Names data t) : data.textUnder "output" = t := Value.textUnder_eq h.field?

/-- What passes the checks is what names a script. -/
theorem allHold_checks (hk : data.HasTextKeys) : AllHold (checks data) ↔ ∃ t, Names data t := by
  simp only [checks, Check.allHold_cons, Check.allHold_nil, and_true]
  constructor
  · rintro ⟨-, ⟨t, ht⟩, hnames, hhex, hne⟩
    rw [Value.textUnder_eq ht] at hhex hne
    obtain ⟨hl, hd⟩ := Hex.exists_spells_iff.mp hhex
    have hname (u : Text) (hu : .text u ∈ data.keys) : u = "output" := List.mem_singleton.mp (hnames u hu)
    exact ⟨t, hk.eq_singleton hname ht, hne, hl, hd⟩
  · rintro ⟨t, h⟩
    rw [h.textUnder]
    have hnames (u : Text) (hu : .text u ∈ data.keys) : u ∈ [Text.ofString "output"] := by
      rw [h.eq_mapping] at hu
      exact List.mem_singleton.mpr (Value.text.inj (List.mem_singleton.mp hu))
    exact ⟨⟨_, h.eq_mapping⟩, ⟨t, h.field?⟩, hnames, Hex.exists_spells_iff.mpr ⟨h.even, h.digits⟩, h.ne_nil⟩

/-- An answer is read if and only if it names a script. The script then is not empty and has the digits that the answer
gives. Otherwise the first check that the answer does not pass is reported, as a fault of the format or an empty
result. -/
theorem read_iff_names (hk : data.HasTextKeys) :
    ((∃ script, (ofValue data >>= lockingScript) = .ok script) ↔ ∃ t, Names data t) ∧
      (∀ t script, Names data t → (ofValue data >>= lockingScript) = .ok script →
        script ≠ [] ∧ Hex.encode script = Text.lower t) ∧
      ∀ e, (ofValue data >>= lockingScript) = .error e →
        FirstFault (checks data) e ∧ (e.isA .format || e.isA .emptyResult) = true := by
  have hs := settles_read hk
  refine ⟨?_, fun t script ht hr => ?_, fun e he => ?_⟩
  · rw [← allHold_checks hk]
    constructor
    · rintro ⟨script, hr⟩
      rw [hr] at hs
      exact hs.1
    · intro h
      obtain ⟨script, hr, -⟩ := hs.exists_ok h
      exact ⟨script, hr⟩
  · rw [hr, ht.textUnder] at hs
    obtain ⟨-, hspells, hne⟩ := hs
    exact ⟨hne, hspells.lower_eq.symm⟩
  · rw [he] at hs
    obtain ⟨c, hc, hreports⟩ := hs.exists_reports
    exact ⟨hs, isA_format_or_emptyResult_of_reports hc hreports⟩

/-- Digits of either case name a script. A field that holds no text is reported before one that is too many. -/
theorem read_iff_names_mixed :
    (∃ data : Value, data.HasTextKeys ∧ data = .mapping [("output", "00fF")] ∧
      ∃ script, (ofValue data >>= lockingScript) = .ok script ∧ script ≠ [] ∧ Hex.encode script = Text.lower "00fF") ∧
    ∃ data : Value, data.HasTextKeys ∧ data = .mapping [("aa", .null), ("output", .int 12)] ∧
      ∃ e, (ofValue data >>= lockingScript) = .error e ∧ FirstFault (checks data) e ∧ e = .missingField "output" := by
  let named : Value := .mapping [("output", "00fF")]
  let crowded : Value := .mapping [("aa", .null), ("output", .int 12)]
  have hnamed : named.HasTextKeys := ⟨["output"], rfl, by decide⟩
  have hcrowded : crowded.HasTextKeys := ⟨["aa", "output"], rfl, by decide⟩
  refine ⟨⟨named, hnamed, rfl, ?_⟩, crowded, hcrowded, rfl, ?_⟩
  · have hs : Hex.Spells "00fF" [0x00, 0xff] := Hex.decode_eq_ok.mp (by decide)
    obtain ⟨heven, hdigits⟩ := Hex.exists_spells_iff.mp ⟨_, hs⟩
    have hn : Names named "00fF" := ⟨rfl, by decide, heven, hdigits⟩
    obtain ⟨script, hr⟩ := (read_iff_names hnamed).1.mpr ⟨_, hn⟩
    exact ⟨script, hr, (read_iff_names hnamed).2.1 _ _ hn hr⟩
  · have hr : (ofValue crowded >>= lockingScript) = .error (.missingField "output") := rfl
    exact ⟨_, hr, ((read_iff_names hcrowded).2.2 _ hr).1, rfl⟩

end Remit.Payment.DestinationResponse
