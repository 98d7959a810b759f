import Mathlib.Data.List.Forall2
import Remit.Proofs.Check
import Remit.Proofs.Hex
import Remit.Proofs.Transaction.Reading
import Remit.Proofs.Value.Keys

/-!
# Reading answers

An answer has to pass checks in order: it is an object, has its fields and no others, and the texts in them spell what
they should. Each step of reading settles the checks that it makes, so that an answer either passes all of them and is
read as what its fields spell, or is refused for the first that it does not pass. Nothing else comes out.
-/

namespace Remit

/-! ## Fields -/

namespace Value

/-- The text that an object holds under a name; the empty one if it holds none. -/
def textUnder (name : Text) (v : Value) : Text := ((v.field? name).bind toText?).getD []

/-- The items of the list that an object holds under a name; none if it holds no list. -/
def itemsUnder (name : Text) (v : Value) : List Value := ((v.field? name).bind Payment.Response.items?).getD []

theorem items?_eq_some {v : Value} {items : List Value} :
    Payment.Response.items? v = some items ↔ v = .list items := by
  cases v with
  | list => rw [Payment.Response.items?, Option.some.injEq, Value.list.injEq]
  | _ => exact iff_of_false (fun h => nomatch h) (fun h => nomatch h)

theorem textUnder_eq {name t : Text} {v : Value} (h : v.field? name = some (.text t)) : v.textUnder name = t := by
  rw [textUnder, h]
  rfl

theorem itemsUnder_eq {name : Text} {v : Value} {items : List Value} (h : v.field? name = some (.list items)) :
    v.itemsUnder name = items := by
  rw [itemsUnder, h]
  rfl

theorem mapM_toText?_eq_some {vs : List Value} {ts : List Text} : vs.mapM toText? = some ts ↔ vs = ts.map .text := by
  induction vs generalizing ts with
  | nil => cases ts <;> simp
  | cons v vs ih =>
    rw [List.mapM_cons]
    constructor
    · intro h
      obtain ⟨t, ht, h⟩ := Option.bind_eq_some_iff.mp h
      obtain ⟨us, hu, h⟩ := Option.bind_eq_some_iff.mp h
      obtain rfl : t :: us = ts := Option.some.inj h
      rw [toText?_eq_some.mp ht, ih.mp hu, List.map_cons]
    · intro h
      cases ts with
      | nil => cases h
      | cons t ts =>
        obtain ⟨hv, hvs⟩ := List.cons.inj h
        rw [hv, ih.mpr hvs]
        rfl

end Value

namespace Payment

open Check (AllHold FirstFault Settles)
open Hex (Spells)
open Transaction (Layout OutputLayout IsShortOrLong)

/-! ## Checks -/

namespace Response

/-- The answer is an object. -/
def objectCheck (data : Value) : Check :=
  .of (∃ entries, data = .mapping entries) (.format "response" (.notAnObject data.kindName) .null)

/-- The answer has a text under a name. -/
def textCheck (name : Text) (data : Value) : Check :=
  .of (∃ t, data.field? name = some (.text t)) (.missingField name)

/-- The answer has a list under a name. -/
def listCheck (name : Text) (data : Value) : Check :=
  .of (∃ items, data.field? name = some (.list items)) (.missingField name)

/-- The answer has no other fields than the named ones; if it has, all others are reported in order. -/
def namesCheck (names : List Text) (data : Value) : Check where
  holds := ∀ t, .text t ∈ data.keys → t ∈ names
  reports e := ∃ others : List Text, others.Pairwise (· < ·) ∧ (∀ t, t ∈ others ↔ .text t ∈ data.keys ∧ t ∉ names) ∧
    e = .unexpectedFields (.list (others.map .text))

/-- The items under a name are texts. -/
def itemsCheck (name : Text) (data : Value) : Check :=
  .of (∃ ts : List Text, data.itemsUnder name = ts.map .text) (.missingField name)

/-- The text is hexadecimal. -/
def hexCheck (stage : Stage) (position : Value) (t : Text) : Check where
  holds := ∃ bs, Spells t bs
  reports e := ∃ fault, Hex.decode t = .error fault ∧ e = .format stage (.hex fault) position

/-- The text spells exactly one of the written forms whose bytes are given. -/
def formCheck {Form : Type} (bytes : Form → Bytes) (stage : Stage) (position : Value) (t : Text) : Check where
  holds := ∃ form, Spells t (bytes form)
  reports e := ∃ fault, IsShortOrLong fault ∧ e = .format stage (.serialization fault) position

end Response

open Response

namespace DestinationResponse

/-- What an answer that names a script has to pass, in order. -/
def checks (data : Value) : List Check :=
  [objectCheck data, textCheck "output" data, namesCheck ["output"] data,
    hexCheck "parse script hex" .null (data.textUnder "output"),
    .of (data.textUnder "output" ≠ []) .emptyLockingScript]

end DestinationResponse

namespace PaymentResponse

/-- What the text of a transaction has to pass. -/
def transactionChecks (t : Text) : List Check :=
  [hexCheck "parse tx hex" .null t, formCheck Layout.bytes "deserialize tx" .null t]

/-- What the text of an output has to pass. -/
def outputChecks (t : Text) (position : Nat) : List Check :=
  [hexCheck "parse output hex" position t, formCheck OutputLayout.bytes "deserialize output" position t]

/-- What the fields of an answer that holds a transaction and outputs have to pass. -/
def fieldChecks (data : Value) : List Check :=
  [objectCheck data, textCheck "paymentRequest" data, listCheck "outputs" data,
    namesCheck ["paymentRequest", "outputs"] data, itemsCheck "outputs" data]

/-- What such an answer has to pass, in order. -/
def checks (data : Value) : List Check :=
  fieldChecks data ++ (transactionChecks (data.textUnder "paymentRequest") ++
    ((data.itemsUnder "outputs").filterMap Value.toText?).zipIdx.flatMap fun (t, position) => outputChecks t position)

end PaymentResponse

/-! ## Steps of reading -/

namespace Response

theorem settles_entries (data : Value) :
    Settles [objectCheck data] (fun es => data = .mapping es) (entries data) := by
  refine .single (fun es h => ?_) (fun e h => ?_)
  · cases data with
    | mapping entries =>
      cases h
      exact ⟨⟨_, rfl⟩, rfl⟩
    | _ => cases h
  · cases data with
    | mapping entries => cases h
    | _ =>
      cases h
      exact ⟨fun ⟨_, h⟩ => (nomatch h), rfl⟩

theorem lookup?_bind_eq_some {α : Type} {read? : Value → Option α} {make : α → Value}
    (hr : ∀ v a, read? v = some a ↔ v = make a) {name : Text} {es : List (Value × Value)} {a : α} :
    (Value.lookup? (.text name) es).bind read? = some a ↔ (Value.mapping es).field? name = some (make a) := by
  simp only [Option.bind_eq_some_iff, hr, exists_eq_right, Value.field?]

theorem settles_field {α : Type} {read? : Value → Option α} {make : α → Value}
    (hr : ∀ v a, read? v = some a ↔ v = make a) {data : Value} {es : List (Value × Value)} (hd : data = .mapping es)
    (name : Text) :
    Settles [.of (∃ a, data.field? name = some (make a)) (.missingField name)]
      (fun a => data.field? name = some (make a)) (field read? name es) := by
  subst hd
  have hf (a : α) : (Value.lookup? (.text name) es).bind read? = some a ↔
      (Value.mapping es).field? name = some (make a) := lookup?_bind_eq_some hr
  rw [field]
  cases h : (Value.lookup? (.text name) es).bind read? with
  | some a => exact .single (fun _ h' => Except.ok.inj h' ▸ ⟨⟨a, (hf a).mp h⟩, (hf a).mp h⟩) (fun _ h' => nomatch h')
  | none =>
    refine .single (fun _ h' => nomatch h') (fun e h' => ⟨?_, (Except.error.inj h').symm⟩)
    rintro ⟨a, ha⟩
    rw [(hf a).mpr ha] at h
    cases h

/-- Fields that are named by texts can be told. -/
theorem raised_unexpectedFields (names : List Text) :
    (Error.unexpectedFields (.list (names.map .text))).raised = .unexpectedFields (.list (names.map .text)) := by
  refine Error.raised_eq_self (List.all_eq_true.mpr fun v hv => ?_)
  obtain ⟨t, -, rfl⟩ := List.mem_map.mp hv
  rfl

theorem settles_checkNames {data : Value} (hk : data.HasTextKeys) {es : List (Value × Value)}
    (hd : data = .mapping es) (names : List Text) :
    Settles [namesCheck names data] (fun _ => True) (checkNames names es) := by
  obtain ⟨keys, hk, hn⟩ := hk
  have hothers : (es.map (·.1)).filter (fun key => !(names.any fun name => Value.text name == key)) =
      (keys.filter fun t => !(names.contains t)).map Value.text := by
    rw [show es.map (·.1) = keys.map Value.text by rw [← hk, hd]; rfl, List.filter_map]
    congr 1
    refine List.filter_congr fun t _ => congrArg Bool.not ?_
    rw [List.contains_eq_any_beq]
    exact congrArg names.any (funext fun name => (Value.text_beq_text name t).trans BEq.comm)
  have hmem (t : Text) : .text t ∈ data.keys ↔ t ∈ keys := by
    rw [hk, List.mem_map]
    exact ⟨fun ⟨u, hu, h⟩ => Value.text.inj h ▸ hu, fun ht => ⟨t, ht, rfl⟩⟩
  obtain ⟨sorted, hs, hlt, hsm⟩ := Value.exists_sortKeys?_eq (hn.filter fun t => !(names.contains t))
  have hsm (t : Text) : t ∈ sorted ↔ .text t ∈ data.keys ∧ t ∉ names := by
    rw [hsm, List.mem_filter, hmem, Bool.not_eq_true', List.contains_eq_mem, decide_eq_false_iff_not]
  rw [checkNames, hothers, hs]
  cases sorted with
  | nil =>
    refine .single (fun _ _ => ⟨fun t ht => ?_, trivial⟩) (fun _ h => nomatch h)
    by_contra hn
    cases (hsm t).mpr ⟨ht, hn⟩
  | cons t sorted =>
    change Settles _ _ (.error (Error.unexpectedFields (.list ((t :: sorted).map .text))).raised)
    rw [raised_unexpectedFields]
    refine .single (fun _ h => nomatch h) (fun e h => ⟨fun hall => ?_, _, hlt, hsm, (Except.error.inj h).symm⟩)
    obtain ⟨ht, hn⟩ := (hsm t).mp List.mem_cons_self
    exact hn (hall t ht)

theorem settles_decodeHex (stage : Stage) (position : Value) (t : Text) :
    Settles [hexCheck stage position t] (Spells t) (decodeHex stage position t) := by
  refine .mapError ?_ (fun fault h => ⟨fault, h, rfl⟩) fun _ => Hex.decode_eq_ok.mp
  exact exists_congr fun _ => Hex.decode_eq_ok.symm

theorem settles_atStage {Form α : Type} {bytes : Form → Bytes} {value : Form → α} {result : Except Error α}
    {t : Text} {bs : Bytes} (hs : Spells t bs) (hok : ∀ a, result = .ok a ↔ ∃ form, bytes form = bs ∧ value form = a)
    (he : ∀ e, result = .error e → ∃ fault, IsShortOrLong fault ∧ e = .serialization fault) (stage : Stage)
    (position : Value) :
    Settles [formCheck bytes stage position t] (fun a => ∃ form, Spells t (bytes form) ∧ value form = a)
      (atStage stage position result) := by
  cases h : result with
  | ok a =>
    obtain ⟨form, rfl, hv⟩ := (hok a).mp h
    exact .single (fun _ h' => Except.ok.inj h' ▸ ⟨⟨form, hs⟩, form, hs, hv⟩) (fun _ h' => nomatch h')
  | error e =>
    obtain ⟨fault, hf, rfl⟩ := he e h
    refine .single (fun _ h' => nomatch h') (fun e h' => ⟨?_, fault, hf, (Except.error.inj h').symm⟩)
    rintro ⟨form, hform⟩
    rw [(hok (value form)).mpr ⟨form, hform.unique hs, rfl⟩] at h
    cases h

end Response

/-! ## Answers that name a script -/

namespace DestinationResponse

theorem settles_lockingScript {data : Value} {r : DestinationResponse}
    (h : data.field? "output" = some (.text r.output)) :
    Settles [hexCheck "parse script hex" .null (data.textUnder "output"),
        .of (data.textUnder "output" ≠ []) .emptyLockingScript]
      (fun script => Spells r.output script ∧ script ≠ []) r.lockingScript := by
  rw [Value.textUnder_eq h]
  refine (settles_decodeHex _ _ _).cons fun script hs => ?_
  have hn : r.output = [] ↔ script = [] := by
    rw [← List.length_eq_zero_iff, ← List.length_eq_zero_iff, hs.length_eq]
    omega
  cases script with
  | nil => exact .single (fun _ h => nomatch h) (fun e h => ⟨fun hne => hne (hn.mpr rfl), (Except.error.inj h).symm⟩)
  | cons b script =>
    have hne : b :: script ≠ [] := List.cons_ne_nil b script
    exact .single (fun _ h => Except.ok.inj h ▸ ⟨fun ho => hne (hn.mp ho), hs, hne⟩) (fun _ h => nomatch h)

theorem settles_read {data : Value} (hk : data.HasTextKeys) :
    Settles (checks data) (fun script => Spells (data.textUnder "output") script ∧ script ≠ [])
      (ofValue data >>= lockingScript) := by
  have hv : Settles [objectCheck data, textCheck "output" data, namesCheck ["output"] data]
      (fun r => data.field? "output" = some (.text r.output)) (ofValue data) := by
    refine (settles_entries data).cons fun es hd => ?_
    refine (settles_field (fun _ _ => Value.toText?_eq_some) hd _).cons fun t ht => ?_
    exact (settles_checkNames hk hd _).bind_pure fun _ _ => ht
  refine hv.bind fun r hr => (settles_lockingScript hr).mono fun script h => ?_
  rwa [Value.textUnder_eq hr]

/-- Whatever does not pass is reported as a fault of the format or as an empty result. -/
theorem isA_format_or_emptyResult_of_reports {data : Value} {c : Check} (hc : c ∈ checks data) {e : Error}
    (he : c.reports e) : (e.isA .format || e.isA .emptyResult) = true := by
  simp only [checks, List.mem_cons, List.not_mem_nil, or_false] at hc
  obtain rfl | rfl | rfl | rfl | rfl := hc
  · exact he ▸ rfl
  · exact he ▸ rfl
  · obtain ⟨_, -, -, rfl⟩ := he
    rfl
  · obtain ⟨_, -, rfl⟩ := he
    rfl
  · exact he ▸ rfl

end DestinationResponse

/-! ## Answers that hold a transaction and outputs -/

namespace PaymentResponse

theorem settles_decodeTransaction (r : PaymentResponse) :
    Settles (transactionChecks r.transaction) (fun tx => ∃ l : Layout, Spells r.transaction l.bytes ∧ l.transaction = tx)
      r.decodeTransaction := by
  refine (settles_decodeHex _ _ _).cons fun raw hs => ?_
  exact settles_atStage hs (fun _ => Transaction.ofBytes_eq_ok)
    (fun _ => Transaction.exists_fault_of_ofBytes_eq_error) _ _

theorem settles_decodeOutput (position : Nat) (t : Text) :
    Settles (outputChecks t position) (fun o => ∃ l : OutputLayout, Spells t l.bytes ∧ l.output = o)
      (decodeOutput position t) := by
  refine (settles_decodeHex _ _ _).cons fun raw hs => ?_
  exact settles_atStage hs (fun _ => Transaction.Output.ofBytes_eq_ok)
    (fun _ => Transaction.Output.exists_fault_of_ofBytes_eq_error) _ _

/-- One output after the other, each at its position. -/
theorem settles_decodeOutputsFrom (position : Nat) (ts : List Text) :
    Settles ((ts.zipIdx position).flatMap fun (t, n) => outputChecks t n)
      (List.Forall₂ (fun t o => ∃ l : OutputLayout, Spells t l.bytes ∧ l.output = o) ts)
      (decodeOutputsFrom position ts) := by
  induction ts generalizing position with
  | nil => exact .ok .nil
  | cons t ts ih =>
    rw [List.zipIdx_cons, List.flatMap_cons]
    exact (settles_decodeOutput position t).bind fun o ho => (ih (position + 1)).bind_pure fun os hos => .cons ho hos

/-- What the fields hold is decoded. -/
structure Holds (data : Value) (r : PaymentResponse) : Prop where
  transaction : data.field? "paymentRequest" = some (.text r.transaction)
  outputs : data.field? "outputs" = some (.list (r.outputs.map .text))

theorem Holds.unique {data : Value} {r r' : PaymentResponse} (h : Holds data r) (h' : Holds data r') : r = r' := by
  obtain ⟨t, ts⟩ := r
  obtain ⟨t', ts'⟩ := r'
  obtain rfl : t = t' := Value.text.inj (Option.some.inj (h.transaction.symm.trans h'.transaction))
  have hl : ts.map Value.text = ts'.map Value.text := Value.list.inj (Option.some.inj (h.outputs.symm.trans h'.outputs))
  obtain rfl := List.map_injective_iff.mpr (fun _ _ => Value.text.inj) hl
  rfl

theorem settles_ofValue {data : Value} (hk : data.HasTextKeys) :
    Settles (fieldChecks data) (Holds data) (ofValue data) := by
  refine (settles_entries data).cons fun es hd => ?_
  refine (settles_field (fun _ _ => Value.toText?_eq_some) hd _).cons fun t ht => ?_
  refine (settles_field (fun _ _ => Value.items?_eq_some) hd _).cons fun items hi => ?_
  refine (settles_checkNames hk hd _).cons fun _ _ => ?_
  cases hm : items.mapM Value.toText? with
  | some ts =>
    obtain rfl := Value.mapM_toText?_eq_some.mp hm
    exact .single (fun _ h => Except.ok.inj h ▸ ⟨⟨ts, Value.itemsUnder_eq hi⟩, ht, hi⟩) (fun _ h => nomatch h)
  | none =>
    refine .single (fun _ h => nomatch h) (fun e h => ⟨?_, (Except.error.inj h).symm⟩)
    rintro ⟨ts, hts⟩
    rw [Value.itemsUnder_eq hi] at hts
    rw [Value.mapM_toText?_eq_some.mpr hts] at hm
    cases hm

/-- The answer is read as the transaction and the outputs that its texts spell, in order. -/
structure Spelled (data : Value) (p : PaymentTemplate) : Prop where
  transaction : ∃ t, ∃ l : Layout, data.field? "paymentRequest" = some (.text t) ∧ Spells t l.bytes ∧
    p.transaction = l.transaction ∧ p.transaction.raw = .ok (l.bytes, p.transaction)
  outputs : ∃ ts : List Text, data.field? "outputs" = some (.list (ts.map .text)) ∧
    List.Forall₂ (fun t o => ∃ l : OutputLayout, Spells t l.bytes ∧ l.output = o) ts p.outputs

theorem settles_read {data : Value} (hk : data.HasTextKeys) :
    Settles (checks data) (Spelled data) (ofValue data >>= decode) := by
  refine (settles_ofValue hk).bind fun r hr => ?_
  have hts : (data.itemsUnder "outputs").filterMap Value.toText? = r.outputs := by
    rw [Value.itemsUnder_eq hr.outputs, List.filterMap_map]
    exact List.filterMap_some
  rw [Value.textUnder_eq hr.transaction, hts]
  refine (settles_decodeTransaction r).bind fun tx ⟨l, hs, hl⟩ => ?_
  subst hl
  exact (settles_decodeOutputsFrom 0 r.outputs).bind_pure fun os hos =>
    ⟨⟨_, l, hr.transaction, hs, rfl, rfl⟩, _, hr.outputs, hos⟩

/-- Whatever does not pass is reported as a fault of the format. -/
theorem isA_format_of_reports {data : Value} {c : Check} (hc : c ∈ checks data) {e : Error} (he : c.reports e) :
    e.isA .format = true := by
  have hhex (stage : Stage) (position : Value) (t : Text) (h : (hexCheck stage position t).reports e) :
      e.isA .format = true := by
    obtain ⟨_, -, rfl⟩ := h
    rfl
  have hform {Form : Type} (bytes : Form → Bytes) (stage : Stage) (position : Value) (t : Text)
      (h : (formCheck bytes stage position t).reports e) : e.isA .format = true := by
    obtain ⟨_, -, rfl⟩ := h
    rfl
  simp only [checks, fieldChecks, transactionChecks, outputChecks, List.mem_append, List.mem_cons, List.mem_flatMap,
    List.not_mem_nil, or_false] at hc
  obtain (rfl | rfl | rfl | rfl | rfl) | (rfl | rfl) | ⟨_, -, rfl | rfl⟩ := hc
  · exact he ▸ rfl
  · exact he ▸ rfl
  · exact he ▸ rfl
  · obtain ⟨_, -, -, rfl⟩ := he
    rfl
  · exact he ▸ rfl
  · exact hhex _ _ _ he
  · exact hform _ _ _ _ he
  · exact hhex _ _ _ he
  · exact hform _ _ _ _ he

/-- An answer that passes all checks is read as what its texts spell. Any other is refused, by an error of the format
that reports the first check it does not pass. -/
theorem read_reports_first_fault {data : Value} (hk : data.HasTextKeys) :
    (AllHold (checks data) → ∃ p, (ofValue data >>= decode) = .ok p ∧ Spelled data p) ∧
      (¬ AllHold (checks data) →
        ∃ e, (ofValue data >>= decode) = .error e ∧ FirstFault (checks data) e ∧ e.isA .format = true) := by
  have h := settles_read hk
  refine ⟨h.exists_ok, fun hn => ?_⟩
  obtain ⟨e, he, hf⟩ := h.exists_error hn
  obtain ⟨c, hc, hr⟩ := hf.exists_reports
  exact ⟨e, he, hf, isA_format_of_reports hc hr⟩

/-- The transaction and the first output are good, the second output is not hexadecimal, and the third is cut off. -/
theorem read_reports_first_fault_at_one :
    ∃ data : Value, data.HasTextKeys ∧
      data = .mapping [("outputs", .list ["000000000000000000", "0g", "00"]), ("paymentRequest", "01000000000000000000")] ∧
      ∃ e, (ofValue data >>= decode) = .error e ∧ FirstFault (checks data) e ∧
        e = .format "parse output hex" (.hex .notDigit) (.int 1) := by
  let data : Value :=
    .mapping [("outputs", .list ["000000000000000000", "0g", "00"]), ("paymentRequest", "01000000000000000000")]
  let r : PaymentResponse := ⟨"01000000000000000000", ["000000000000000000", "0g", "00"]⟩
  let l : Layout := ⟨⟨1, by decide⟩, .ofList [] (by decide), .ofList [] (by decide), ⟨0, by decide⟩⟩
  have hk : data.HasTextKeys := ⟨["outputs", "paymentRequest"], rfl, by decide⟩
  have hnames : (namesCheck ["paymentRequest", "outputs"] data).holds := by
    rintro t (_ | ⟨_, _ | ⟨_, ⟨⟩⟩⟩) <;> decide
  have hfields : AllHold (fieldChecks data) := by
    rintro c (_ | ⟨_, _ | ⟨_, _ | ⟨_, _ | ⟨_, _ | ⟨_, ⟨⟩⟩⟩⟩⟩⟩)
    exacts [⟨_, rfl⟩, ⟨_, rfl⟩, ⟨_, rfl⟩, hnames, ⟨["000000000000000000", "0g", "00"], rfl⟩]
  obtain ⟨r', hv, hr'⟩ := (settles_ofValue hk).exists_ok hfields
  rw [hr'.unique (show Holds data r from ⟨rfl, rfl⟩)] at hv
  have hs : Spells r.transaction l.bytes := Hex.decode_eq_ok.mp (by decide)
  obtain ⟨tx, htx, -⟩ := (settles_decodeTransaction r).exists_ok
    (Check.allHold_cons.mpr ⟨⟨_, hs⟩, Check.allHold_cons.mpr ⟨⟨l, hs⟩, Check.allHold_nil⟩⟩)
  have hr : (ofValue data >>= decode) = .error (.format "parse output hex" (.hex .notDigit) (.int 1)) := by
    rw [hv]
    change (r.decodeTransaction >>= _) = _
    rw [htx]
    rfl
  have hn : ¬ AllHold (checks data) := by
    intro h
    obtain ⟨p, hp, -⟩ := (read_reports_first_fault hk).1 h
    rw [hr] at hp
    cases hp
  obtain ⟨e, he, hf, -⟩ := (read_reports_first_fault hk).2 hn
  exact ⟨data, hk, rfl, e, he, hf, Except.error.inj (he.symm.trans hr)⟩

end PaymentResponse

end Payment

end Remit
