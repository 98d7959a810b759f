import Remit.Payment.Request
import Remit.Proofs.Signing
import Remit.Proofs.Text.Decimal

/-!
# Terms

What a signature covers: the sender's handle, the time, the asset if one is named, the amount and the purpose. They are
signed one after the other, with nothing between them. So a signed message tells the terms as far as it is known where
each of them ends: of two requests with the same message, the terms agree if and only if they are aligned.
-/

namespace Remit.Payment

/-- What is asked for: a payment in an asset, or where to pay to if there is none. -/
def Request.Kind.of : (asset? : Option Text) → Request.Kind
  | none => .destination
  | some asset => .payment (.text asset)

/-- What the signature of a request covers. A request without an asset asks where to pay to. -/
structure Terms where
  senderHandle : Text
  timestamp : Text
  asset? : Option Text
  amount : Nat
  purpose : Text

namespace Terms

/-- The asset as it is signed; nothing if there is none. -/
def asset (t : Terms) : Text := t.asset?.getD []

/-- The message that is signed for the terms. -/
def message (t : Terms) : Text :=
  t.senderHandle ++ (t.timestamp ++ (t.asset ++ (Text.ofNat t.amount ++ t.purpose)))

/-- The request on these terms. -/
def request (t : Terms) (senderName : Text) (signature : Text := []) : Request where
  kind := .of t.asset?
  senderName := .text senderName
  senderHandle := .text t.senderHandle
  timestamp := .text t.timestamp
  amount := .int t.amount
  purpose := .text t.purpose
  signature := .text signature

/-- The terms are the same, where no asset counts as an empty one. -/
structure Agree (t u : Terms) : Prop where
  senderHandle : t.senderHandle = u.senderHandle
  timestamp : t.timestamp = u.timestamp
  asset : t.asset = u.asset
  amount : t.amount = u.amount
  purpose : t.purpose = u.purpose

/-- Each of the terms ends at the same place in the message: the texts are equally long, and the amounts too unless it
shows from the purposes where they end. -/
structure Aligned (t u : Terms) : Prop where
  senderHandle : t.senderHandle.length = u.senderHandle.length
  timestamp : t.timestamp.length = u.timestamp.length
  asset : t.asset.length = u.asset.length
  amount : (Text.ofNat t.amount).length = (Text.ofNat u.amount).length ∨
    t.purpose.startsWithDigit = false ∧ u.purpose.startsWithDigit = false

variable {t u : Terms}

theorem Agree.aligned (h : Agree t u) : Aligned t u :=
  ⟨congrArg _ h.senderHandle, congrArg _ h.timestamp, congrArg _ h.asset, .inl (by rw [h.amount])⟩

theorem Agree.message_eq (h : Agree t u) : t.message = u.message := by
  rw [message, message, h.senderHandle, h.timestamp, h.asset, h.amount, h.purpose]

/-- An asset that is not empty shows that a payment is asked for. -/
theorem Agree.asset?_eq (h : Agree t u) (ht : t.asset ≠ []) : t.asset? = u.asset? := by
  obtain ⟨_, _, _ | asset, _, _⟩ := t
  · exact absurd rfl ht
  obtain ⟨_, _, _ | asset', _, _⟩ := u
  · exact absurd h.asset ht
  · exact congrArg some h.asset

/-- Where the terms end at the same places, the message determines them. -/
theorem Aligned.agree (h : Aligned t u) (hm : t.message = u.message) : Agree t u := by
  obtain ⟨hhandle, hm⟩ := List.append_inj hm h.senderHandle
  obtain ⟨htime, hm⟩ := List.append_inj hm h.timestamp
  obtain ⟨hasset, hm⟩ := List.append_inj hm h.asset
  obtain ⟨hamount, hpurpose⟩ := Text.ofNat_append_inj hm h.amount
  exact ⟨hhandle, htime, hasset, hamount, hpurpose⟩

theorem message_request (t : Terms) (senderName signature : Text) :
    (t.request senderName signature).message = .ok t.message := by
  obtain ⟨handle, time, _ | asset, amount, purpose⟩ := t
  · have hparts : [handle, time, Text.ofNat amount, purpose].flatten =
        handle ++ (time ++ (Text.ofNat amount ++ purpose)) := by
      simp only [List.flatten_cons, List.flatten_nil, List.append_nil]
    exact congrArg Except.ok hparts
  · have hparts : [handle, time, asset, Text.ofNat amount, purpose].flatten =
        handle ++ (time ++ (asset ++ (Text.ofNat amount ++ purpose))) := by
      simp only [List.flatten_cons, List.flatten_nil, List.append_nil]
    exact congrArg Except.ok hparts

end Terms

namespace Request

/-- The request passes its check, and it was made on these terms; all its texts are texts. -/
structure HasTerms (r : Request) (t : Terms) : Prop where
  isChecked : r.check = .ok r
  exists_eq : ∃ senderName signature, r = t.request senderName signature

/-- These bytes are hashed when the request is signed. -/
def Hashes (r : Request) (bs : Bytes) : Prop :=
  ∃ m content, r.message = .ok m ∧ Utf8.encode m = .ok content ∧ (Message.envelope content).toExcept = .ok bs

theorem HasTerms.message_eq {r : Request} {t : Terms} (h : r.HasTerms t) : r.message = .ok t.message := by
  obtain ⟨senderName, signature, rfl⟩ := h.exists_eq
  exact t.message_request senderName signature

theorem HasTerms.kind_eq {r : Request} {t : Terms} (h : r.HasTerms t) : r.kind = .of t.asset? := by
  obtain ⟨_, _, rfl⟩ := h.exists_eq
  rfl

/-- Requests over the same bytes have the same message. -/
theorem Hashes.message_eq {r s : Request} {bs : Bytes} (hr : r.Hashes bs) (hs : s.Hashes bs) :
    r.message = s.message := by
  obtain ⟨m, content, hm, hc, hb⟩ := hr
  obtain ⟨n, content', hn, hc', hb'⟩ := hs
  rw [hm, hn, Message.eq_of_toExcept_envelope hc hc' hb hb']

/-- Of two requests with the same message, the terms agree if and only if they are aligned. Requests whose terms are
aligned but do not agree are signed over different bytes. Where the terms agree, so do the messages, and an asset that
is not empty shows what is asked for. -/
theorem message_determines_aligned_terms {r s : Request} {t u : Terms} (hr : r.HasTerms t) (hs : s.HasTerms u) :
    (r.message = s.message → (t.Agree u ↔ t.Aligned u)) ∧
      (t.Aligned u → ¬ t.Agree u → ∀ bs cs, r.Hashes bs → s.Hashes cs → bs ≠ cs) ∧
      (t.Agree u → r.message = s.message ∧ (t.asset ≠ [] → r.kind = s.kind)) := by
  have hm : r.message = s.message ↔ t.message = u.message := by rw [hr.message_eq, hs.message_eq, Except.ok.injEq]
  refine ⟨fun h => ⟨Terms.Agree.aligned, fun ha => ha.agree (hm.mp h)⟩, ?_, fun h => ⟨hm.mpr h.message_eq, fun ht => ?_⟩⟩
  · rintro ha hn bs _ hb hc rfl
    exact hn (ha.agree (hm.mp (hb.message_eq hc)))
  · rw [hr.kind_eq, hs.kind_eq, h.asset?_eq ht]

/-- The amounts differ in how many digits they have, but no purpose begins with one. -/
theorem message_determines_aligned_terms_coffee :
    ∃ (r s : Request) (t u : Terms), r.HasTerms t ∧ s.HasTerms u ∧ t.Aligned u ∧ ¬ t.Agree u ∧
      r.message ≠ s.message := by
  let t : Terms := ⟨"bob@example.org", "2020-01-02T15:04:05Z", none, 2500, "coffee"⟩
  let u : Terms := { t with amount := 25000 }
  have ht : (t.request "Bob").HasTerms t := ⟨rfl, _, _, rfl⟩
  have hu : (u.request "Bob").HasTerms u := ⟨rfl, _, _, rfl⟩
  have ha : t.Aligned u := ⟨rfl, rfl, rfl, .inr ⟨rfl, rfl⟩⟩
  have hn : ¬ t.Agree u := fun h => absurd h.amount (by decide)
  exact ⟨_, _, t, u, ht, hu, ha, hn, fun hm => hn (((message_determines_aligned_terms ht hu).1 hm).mpr ha)⟩

/-- A digit may belong to the amount or to the purpose, and an empty asset looks like none: three requests with the same
message, so that what is signed for one passes for the others. -/
theorem message_leaves_terms_open :
    ∃ (r s v : Request) (t u w : Terms), r.HasTerms t ∧ s.HasTerms u ∧ v.HasTerms w ∧
      r.message = s.message ∧ t.amount ≠ u.amount ∧ t.purpose ≠ u.purpose ∧
      r.message = v.message ∧ r.kind = .destination ∧ v.kind = .payment (.text []) ∧
      ∀ key signature, (r.message >>= fun m => Message.verify key (.text m) signature) =
        (s.message >>= fun m => Message.verify key (.text m) signature) := by
  let t : Terms := ⟨"bob@example.org", "2020-01-02T15:04:05Z", none, 1, "2"⟩
  let u : Terms := { t with amount := 12, purpose := [] }
  let w : Terms := { t with asset? := some [] }
  have hm (t' : Terms) (h : t'.message = t.message) : (t.request "Bob").message = (t'.request "Bob").message := by
    rw [t.message_request, t'.message_request, h]
  have hu : u.message = t.message := by decide
  have hw : w.message = t.message := by decide
  refine ⟨t.request "Bob", u.request "Bob", w.request "Bob", t, u, w, ⟨rfl, _, _, rfl⟩, ⟨rfl, _, _, rfl⟩,
    ⟨rfl, _, _, rfl⟩, hm u hu, by decide, by decide, hm w hw, rfl, rfl, fun key signature => ?_⟩
  rw [hm u hu]

end Request

end Remit.Payment
