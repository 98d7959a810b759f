import Mathlib.Data.List.Induction
import Remit.Identity
import Remit.Proofs.Value.Keys
import Remit.Proofs.Value.Equality

/-!
# Capabilities of a document

A document tells of a capability under either of two names. An entry under one of them counts if it holds a text, and of
those that count the last one is taken; all others might as well not be there. What was taken can be published again, and
is taken from that too.
-/

namespace Remit

open Capability (ofName? ofDocumentName?)

namespace Capability

variable {c : Capability} {entries : List (Text × Value)}

/-! ## Names -/

theorem ofName?_eq_some {name : Text} : ofName? name = some c ↔ name = c.name := by
  constructor
  · intro h
    have hname := List.find?_some h
    exact (beq_iff_eq.mp hname).symm
  · rintro rfl
    cases c <;> decide

theorem ofDocumentName?_eq_some {name : Text} : ofDocumentName? name = some c ↔ name = c.name ∨ name = c.otherName := by
  constructor
  · intro h
    have hname := List.find?_some h
    rw [Bool.or_eq_true, beq_iff_eq, beq_iff_eq] at hname
    exact hname.imp Eq.symm Eq.symm
  · rintro (rfl | rfl) <;> cases c <;> decide

/-! ## Entries that count -/

/-- The entry counts for the capability: it stands under one of its names and holds a text. -/
def Counts (c : Capability) (entry : Text × Value) : Prop :=
  (entry.1 = c.name ∨ entry.1 = c.otherName) ∧ ∃ t, entry.2 = .text t

instance (c : Capability) : DecidablePred c.Counts := fun entry =>
  decidable_of_iff ((entry.1 = c.name ∨ entry.1 = c.otherName) ∧ entry.2.toText?.isSome = true)
    (and_congr_right fun _ => Option.isSome_iff_exists.trans (exists_congr fun _ => Value.toText?_eq_some))

/-- The text of the last entry that counts, or the empty one if there is none. -/
inductive LastText (c : Capability) : List (Text × Value) → Text → Prop
  | untold {entries : List (Text × Value)} (h : ∀ e ∈ entries, ¬ c.Counts e) : LastText c entries []
  | told {front back : List (Text × Value)} {name t : Text} (hname : name = c.name ∨ name = c.otherName)
      (h : ∀ e ∈ back, ¬ c.Counts e) : LastText c (front ++ (name, .text t) :: back) t

/-- Whatever the entries are, one of them is the last that counts, or none counts. -/
theorem exists_lastText (c : Capability) (entries : List (Text × Value)) : ∃ t, c.LastText entries t := by
  induction entries using List.reverseRecOn with
  | nil => exact ⟨[], .untold (List.forall_mem_nil _)⟩
  | append_singleton entries e ih =>
    by_cases he : c.Counts e
    · obtain ⟨name, value⟩ := e
      obtain ⟨hname, t, rfl⟩ := he
      exact ⟨t, .told hname (List.forall_mem_nil _)⟩
    · obtain ⟨t, ht⟩ := ih
      refine ⟨t, ?_⟩
      cases ht with
      | untold h => exact .untold (List.forall_mem_append.mpr ⟨h, List.forall_mem_singleton.mpr he⟩)
      | told hname h =>
        rw [List.append_assoc, List.cons_append]
        exact .told hname (List.forall_mem_append.mpr ⟨h, List.forall_mem_singleton.mpr he⟩)

end Capability

namespace Capabilities

variable {c : Capability} {cs : Capabilities} {e : Text × Value} {entries : List (Text × Value)}

@[ext]
theorem ext_template {cs ds : Capabilities} (h : ∀ c, cs.template c = ds.template c) : cs = ds := by
  obtain ⟨d, p⟩ := cs
  obtain ⟨d', p'⟩ := ds
  rw [Capabilities.mk.injEq]
  exact ⟨h .paymentDestination, h .paymentRequest⟩

theorem template_set (c d : Capability) (v : Value) (cs : Capabilities) :
    (cs.set c v).template d = if d = c then v else cs.template d := by
  cases c <;> cases d <;> rfl

/-! ## One entry -/

theorem enter_text (cs : Capabilities) {name : Text} (t : Text) (h : name = c.name ∨ name = c.otherName) :
    cs.enter (name, .text t) = cs.set c (.text t) := by
  rw [enter, Capability.ofDocumentName?_eq_some.mpr h]

/-- An entry that does not count for a capability leaves its template as it was. -/
theorem template_enter (h : ¬ c.Counts e) : (cs.enter e).template c = cs.template c := by
  obtain ⟨name, value⟩ := e
  rw [enter]
  split
  case h_1 d t hd hv =>
    have hne : c ≠ d := by
      rintro rfl
      exact h ⟨Capability.ofDocumentName?_eq_some.mp hd, t, hv⟩
    rw [template_set, if_neg hne]
  case h_2 => rfl

theorem enter_eq_self (h : ∀ c, ¬ Capability.Counts c e) : cs.enter e = cs :=
  ext_template fun c => template_enter (h c)

/-! ## Documents -/

theorem template_foldl_enter (h : ∀ e ∈ entries, ¬ c.Counts e) :
    (entries.foldl enter cs).template c = cs.template c := by
  induction entries generalizing cs with
  | nil => rfl
  | cons e entries ih =>
    rw [List.forall_mem_cons] at h
    rw [List.foldl_cons, ih h.2, template_enter h.1]

theorem template_ofDocument {t : Text} (h : c.LastText entries t) : (ofDocument entries).template c = .text t := by
  cases h with
  | untold h =>
    rw [ofDocument, template_foldl_enter h]
    cases c <;> rfl
  | told hname h =>
    rw [ofDocument, List.foldl_append, List.foldl_cons, template_foldl_enter h, enter_text _ _ hname, template_set,
      if_pos rfl]

/-! ## Names that are asked for -/

theorem get_name (cs : Capabilities) (c : Capability) : cs.get c.name = cs.template c := by
  cases c <;> rfl

theorem get_of_ne {name : Text} (cs : Capabilities) (h : ∀ c : Capability, name ≠ c.name) : cs.get name = .text [] := by
  have hnone : ofName? name = none := by
    rw [Option.eq_none_iff_forall_ne_some]
    exact fun c hc => h c (Capability.ofName?_eq_some.mp hc)
  rw [get, hnone]
  rfl

/-! ## Publishing again -/

/-- A document that gives each capability its template under its own name, in whatever order and however often. -/
def document (cs : Capabilities) (order : List Capability) : List (Text × Value) :=
  order.map fun c => (c.name, cs.get c.name)

theorem template_of_counts {order : List Capability} (he : e ∈ cs.document order) (hc : c.Counts e) :
    e.2 = cs.template c := by
  obtain ⟨d, -, rfl⟩ := List.mem_map.mp he
  have hd : ofDocumentName? d.name = some d := Capability.ofDocumentName?_eq_some.mpr (.inl rfl)
  have hname : ofDocumentName? d.name = some c := Capability.ofDocumentName?_eq_some.mpr hc.1
  rw [Option.some.inj (hname.symm.trans hd), get_name]

/-- Templates that are texts are taken again from a document that gives them all. -/
theorem ofDocument_document {order : List Capability} (htext : ∀ c, ∃ t, cs.template c = .text t)
    (hall : ∀ c, c ∈ order) : ofDocument (cs.document order) = cs := by
  apply ext_template
  intro c
  obtain ⟨t, ht⟩ := Capability.exists_lastText c (cs.document order)
  rw [template_ofDocument ht]
  generalize hdoc : cs.document order = entries at ht
  cases ht with
  | untold h =>
    obtain ⟨t, ht⟩ := htext c
    have hmem : (c.name, cs.get c.name) ∈ cs.document order := List.mem_map_of_mem (hall c)
    rw [get_name, ht, hdoc] at hmem
    exact absurd ⟨.inl rfl, t, rfl⟩ (h _ hmem)
  | @told front back name t hname h =>
    have hmem : (name, .text t) ∈ cs.document order := hdoc ▸ List.mem_append_right front List.mem_cons_self
    exact template_of_counts hmem ⟨hname, t, rfl⟩

theorem beq_self (htext : ∀ c, ∃ t, cs.template c = .text t) : (cs == cs) = true := by
  obtain ⟨t, ht⟩ := htext .paymentDestination
  obtain ⟨u, hu⟩ := htext .paymentRequest
  have htemplates : cs.templates = [.text t, .text u] := congrArg₂ (fun v w => [v, w]) ht hu
  have hkeys : ∀ v ∈ [Value.text t, .text u], v.isKey = true :=
    List.forall_mem_cons.mpr ⟨rfl, List.forall_mem_singleton.mpr rfl⟩
  change (Value.list cs.templates == Value.list cs.templates) = true
  rw [htemplates, Value.list_beq_of_isKey hkeys]
  simp [Value.text_beq_text]

end Capabilities

/-! ## Services -/

theorem Identity.urlFor_of_template {i : Identity} {c : Capability} {t : Text}
    (ht : i.capabilities.template c = .text t) :
    i.urlFor c.name = if t = [] then .error (.notCapable c.name) else .ok (Template.resolve t i.handle) := by
  rw [urlFor, Capabilities.supports, Capabilities.get_name, ht]
  cases t <;> rfl

/-- The address of a service is refused for want of a capability just if there is no template under the name. -/
theorem Identity.urlFor_eq_notCapable {i : Identity} {name : Text} {v : Value} :
    i.urlFor name = .error (.notCapable v) ↔ v = .text name ∧ i.capabilities.supports name = false := by
  rw [urlFor]
  cases i.capabilities.supports name with
  | false =>
    rw [if_neg Bool.false_ne_true, Except.error.injEq, Error.notCapable.injEq, eq_comm]
    exact (and_iff_left rfl).symm
  | true =>
    rw [if_pos rfl]
    refine iff_of_false (fun h => ?_) fun h => Bool.noConfusion h.2
    split at h <;> cases h

open Capability Capabilities in
/-- For each capability the last entry that counts is taken, and the empty text if none counts; other names have no
text. Entries that do not count might as well not be there. What was taken is taken again from a document that gives it,
and only what was not taken is refused. -/
theorem Capabilities.ofDocument_takes_last_text (entries : List (Text × Value)) :
    (∀ (c : Capability) t, (ofDocument entries).get c.name = .text t ↔ c.LastText entries t) ∧
    (∀ c : Capability, ∃ t, (ofDocument entries).get c.name = .text t) ∧
    (∀ name, (∀ c : Capability, name ≠ c.name) → (ofDocument entries).get name = .text []) ∧
    (∀ front e back, entries = front ++ e :: back → (∀ c, ¬ Counts c e) →
      ofDocument (front ++ back) = ofDocument entries) ∧
    (∀ order : List Capability, (∀ c, c ∈ order) →
      (ofDocument entries == ofDocument ((ofDocument entries).document order)) = true) ∧
    ∀ (i : Identity) (name : Text) (v : Value),
      i.urlFor name = .error (.notCapable v) ↔ v = .text name ∧ i.capabilities.supports name = false := by
  have htext : ∀ c, ∃ t, (ofDocument entries).template c = .text t := fun c =>
    (exists_lastText c entries).imp fun _ => template_ofDocument
  refine ⟨fun c t => ?_, fun c => ?_, fun name => get_of_ne _, ?_, fun order hall => ?_,
    fun i name v => Identity.urlFor_eq_notCapable⟩
  · rw [get_name]
    refine ⟨fun h => ?_, template_ofDocument⟩
    obtain ⟨t', ht'⟩ := exists_lastText c entries
    have heq : Value.text t' = .text t := (template_ofDocument ht').symm.trans h
    exact Value.text.inj heq ▸ ht'
  · rw [get_name]
    exact htext c
  · rintro front e back rfl he
    rw [ofDocument, ofDocument, List.foldl_append, List.foldl_append, List.foldl_cons, enter_eq_self he]
  · rw [ofDocument_document htext hall]
    exact beq_self htext

/-- A document with two texts for one capability, between them a name that is not known, and after them a number. -/
def Capabilities.mixedDocument : List (Text × Value) :=
  [("payment-destination", "https://a"), ("pki", "https://p"), ("paymentDestination", "https://b"),
    ("payment-destination", .int 7)]

open Capability in
theorem Capabilities.ofDocument_takes_last_text_mixed :
    ((ofDocument mixedDocument).get "payment-destination" = .text "https://b") ∧
    ((ofDocument mixedDocument).get "pki" = .text []) ∧
    ofDocument [("payment-destination", "https://a"), ("paymentDestination", "https://b"),
      ("payment-destination", .int 7)] = ofDocument mixedDocument ∧
    (ofDocument mixedDocument == ofDocument ((ofDocument mixedDocument).document all)) = true := by
  obtain ⟨hlast, -, hother, hskip, hsame, -⟩ := ofDocument_takes_last_text mixedDocument
  have htold : Capability.paymentDestination.LastText mixedDocument "https://b" :=
    @LastText.told .paymentDestination [("payment-destination", "https://a"), ("pki", "https://p")]
      [("payment-destination", .int 7)] _ _ (.inr rfl) (by decide)
  exact ⟨(hlast .paymentDestination _).mpr htold, hother _ (by rintro (_ | _) <;> decide),
    hskip [("payment-destination", "https://a")] ("pki", "https://p")
      [("paymentDestination", "https://b"), ("payment-destination", .int 7)] rfl (by rintro (_ | _) <;> decide),
    hsame all (by rintro (_ | _) <;> decide)⟩

end Remit
