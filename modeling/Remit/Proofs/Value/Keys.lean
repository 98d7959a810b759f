import Remit.Payment.Response

/-!
# Keys that are texts

The keys of an object that came as JSON are texts, no two of them equal. Then the keys can always be sorted, by code
points, and those that remain when some names are left out are sorted into one increasing list.
-/

namespace Remit.Value

/-- The keys of an object. -/
def keys : Value → List Value
  | .mapping entries => entries.map (·.1)
  | _ => []

/-- The value that an object holds under a name. -/
def field? (name : Text) : Value → Option Value
  | .mapping entries => lookup? (.text name) entries
  | _ => none

/-- The keys are texts, and each stands once. -/
def HasTextKeys (v : Value) : Prop := ∃ names : List Text, v.keys = names.map .text ∧ names.Nodup

theorem toText?_eq_some {v : Value} {t : Text} : v.toText? = some t ↔ v = .text t := by
  cases v with
  | text u => rw [toText?, Option.some.injEq, Value.text.injEq]
  | _ => exact iff_of_false (fun h => nomatch h) (fun h => nomatch h)

theorem text_beq_text (t u : Text) : (Value.text t == Value.text u) = (t == u) := rfl

theorem field?_singleton (name : Text) (v : Value) : field? name (.mapping [(.text name, v)]) = some v := by
  have hb : (Value.text name == Value.text name) = true := beq_self_eq_true name
  rw [field?, lookup?, List.find?_cons, hb]
  rfl

/-- An object that holds a field and has no other is that field. -/
theorem HasTextKeys.eq_singleton {data v : Value} {name : Text} (hk : data.HasTextKeys)
    (hn : ∀ t, .text t ∈ data.keys → t = name) (hv : data.field? name = some v) : data = .mapping [(.text name, v)] := by
  cases data with
  | mapping entries =>
    obtain ⟨names, hk, hnodup⟩ := hk
    have hk : entries.map (·.1) = names.map Value.text := hk
    have hr : names = List.replicate names.length name := by
      refine List.eq_replicate_of_mem fun t ht => hn t ?_
      rw [keys, hk]
      exact List.mem_map_of_mem ht
    rw [hr, List.nodup_replicate] at hnodup
    match names, entries, hk with
    | [], [], _ => cases hv
    | [t], [(key, w)], hk =>
      obtain rfl : key = .text t := List.head_eq_of_cons_eq hk
      obtain rfl : t = name := List.head_eq_of_cons_eq hr
      rw [field?_singleton] at hv
      rw [Option.some.inj hv]
    | _ :: _ :: _, _, _ => simp at hnodup
  | _ => cases hv

/-! ## Sorting -/

theorem map_val_lt_map_val {t u : Text} : t.map Fin.val < u.map Fin.val ↔ t < u := by
  induction t generalizing u with
  | nil => cases u <;> simp
  | cons c t ih =>
    cases u with
    | nil => simp
    | cons d u => rw [List.map_cons, List.map_cons, List.cons_lt_cons_iff, List.cons_lt_cons_iff, ih, Fin.val_inj]; rfl

theorem sortsBefore?_text (t u : Text) : sortsBefore? (.text t) (.text u) = some (decide (t < u)) :=
  congrArg some (decide_eq_decide.mpr map_val_lt_map_val)

/-- Different names are sorted into increasing order. -/
theorem exists_sortKeys?_eq {names : List Text} (h : names.Nodup) :
    ∃ sorted : List Text, sortKeys? (names.map .text) = some (sorted.map .text) ∧ sorted.Pairwise (· < ·) ∧
      ∀ t, t ∈ sorted ↔ t ∈ names := by
  let le (t u : Text) : Bool := !decide (u < t)
  have hle {t u : Text} : le t u = true ↔ ¬ u < t := by
    rw [Bool.not_eq_true', decide_eq_false_iff_not]
  have hsort : (names.map .text).mergeSort (fun v w => !((sortsBefore? w v).getD false)) =
      (names.mergeSort le).map Value.text := by
    refine (List.map_mergeSort fun t _ u _ => ?_).symm
    rw [sortsBefore?_text]
    rfl
  have htrans (t u w : Text) (h : le t u = true) (h' : le u w = true) : le t w = true :=
    hle.mpr (List.le_trans (hle.mp h) (hle.mp h'))
  have htotal (t u : Text) : (le t u || le u t) = true := by
    rw [Bool.or_eq_true, hle, hle]
    exact List.le_total t u
  have hsorted : (names.mergeSort le).Pairwise fun t u => ¬ u < t :=
    (List.pairwise_mergeSort htrans htotal names).imp hle.mp
  have hnodup : (names.mergeSort le).Nodup := (List.mergeSort_perm names le).nodup_iff.mpr h
  have hstrict : (names.mergeSort le).Pairwise (· < ·) :=
    hsorted.imp₂ (fun t u h hn => (List.le_iff_lt_or_eq.mp h).resolve_right hn) hnodup
  refine ⟨names.mergeSort le, ?_, hstrict, fun t => List.mem_mergeSort⟩
  rw [sortKeys?, if_pos, hsort]
  simp only [List.all_eq_true, List.mem_map]
  rintro _ ⟨t, -, rfl⟩ _ ⟨u, -, rfl⟩
  rw [sortsBefore?_text]
  rfl

end Remit.Value
