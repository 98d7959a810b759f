import Remit.Proofs.Payment.Dispatch

/-!
# Signed requests

A service knows a request by its body alone. It reads the terms back from the fields, puts the signed message together
and checks the signature that stands at the end of the body. A request that was signed passes this check, and but for
the signature its body is that of the request without a signature.
-/

namespace Remit.Payment

open Check (AllHold)

/-! ## Reading a body -/

namespace Body

variable (body : List (Text × Value))

/-- The value under a name. -/
def value? (name : Text) : Option Value := body.lookup name

/-- The text under a name. -/
def text? (name : Text) : Option Text := (value? body name).bind Value.toText?

/-- The message that was signed, put together from the fields of the body. -/
def message? : Option Text := do
  let handle ← text? body "senderHandle"
  let time ← text? body "dt"
  let asset := (text? body "assetID").getD []
  let amount ← value? body "amount"
  let purpose ← text? body "purpose"
  return handle ++ (time ++ (asset ++ (amount.shown ++ purpose)))

/-- Fields with a signature behind them. -/
def withSignature (signature : Text) : List (Text × Value) :=
  let last : Text × Value := ("signature", .text signature)
  body ++ [last]

/-- The signature in the body is one of its message by the owner of the key. -/
def IsSignedBy (key : PublicKey) : Prop :=
  ∃ m signature, message? body = some m ∧ value? body "signature" = some signature ∧
    Message.verify key (.text m) signature = .ok true

end Body

namespace Terms

/-- The body of a request on the terms, without the signature. -/
def unsignedBody (t : Terms) (senderName : Text) : List (Text × Value) := (t.request senderName).body.dropLast

theorem body_request (t : Terms) (senderName signature : Text) :
    (t.request senderName signature).body = Body.withSignature (t.unsignedBody senderName) signature := by
  obtain ⟨_, _, _ | _, _, _⟩ := t <;> rfl

theorem message?_body (t : Terms) (senderName signature : Text) :
    Body.message? (t.request senderName signature).body = some t.message := by
  obtain ⟨_, _, _ | _, _, _⟩ := t <;> rfl

theorem value?_signature_body (t : Terms) (senderName signature : Text) :
    Body.value? (t.request senderName signature).body "signature" = some (.text signature) := by
  obtain ⟨_, _, _ | _, _, _⟩ := t <;> rfl

end Terms

/-! ## Sending with and without a key -/

namespace PlainOrder

variable {identity : Identity} {now : Moment} {o : PlainOrder} {asset? : Option Text} {transport : Transport}

/-- The order with another key, or with none. -/
def withKey (key? : Option SigningKey) (o : PlainOrder) : PlainOrder := { o with key? }

/-- What is sent for an order: to ask for a payment in an asset or, if there is none, where to pay to. -/
def sent (identity : Identity) (now : Moment) (transport : Transport) (o : PlainOrder) : (asset? : Option Text) → List Sent
  | none => ((Client.paymentDestination identity now o.order).run transport).sent
  | some asset => ((Client.paymentRequest identity now (.text asset) o.order).run transport).sent

theorem sent_eq_nil_or_singleton (hi : identity.HasTextTemplates) (hk : ∀ key ∈ o.key?, key.FailsPlainly) :
    o.sent identity now transport asset? = [] ∨ ∃ q, o.sent identity now transport asset? = [q] := by
  cases asset? with
  | none => exact (Service.ends (s := Service.destination) hi hk).sent_eq_nil_or_singleton
  | some asset => exact (Service.ends (s := Service.payment asset) hi hk).sent_eq_nil_or_singleton

theorem sent_eq_singleton (hi : identity.HasTextTemplates) (hk : ∀ key ∈ o.key?, key.FailsPlainly) {q : Sent} :
    o.sent identity now transport asset? = [q] ↔ Client.Sends identity now asset? o q := by
  cases asset? with
  | none => exact (Service.ends (s := Service.destination) hi hk).sent_eq_singleton
  | some asset => exact (Service.ends (s := Service.payment asset) hi hk).sent_eq_singleton

theorem failsPlainly_of_mem_withKey (key : PrivateKey) :
    ∀ k ∈ (o.withKey (some key.signingKey)).key?, k.FailsPlainly := by
  rintro _ ⟨⟩
  exact key.failsPlainly_signingKey

/-- What has to hold without a key has to hold with one. -/
theorem sent_withKey_eq_nil (hi : identity.HasTextTemplates) (key : PrivateKey)
    (hnone : (o.withKey none).sent identity now transport asset? = []) :
    (o.withKey (some key.signingKey)).sent identity now transport asset? = [] := by
  have hk := failsPlainly_of_mem_withKey (o := o) key
  refine (sent_eq_nil_or_singleton hi hk).resolve_right fun ⟨q, hq⟩ => ?_
  obtain ⟨hall, hurl, -⟩ := (sent_eq_singleton hi hk).mp hq
  have hsends : Client.Sends identity now asset? (o.withKey none)
      ⟨q.url, ((o.terms now asset?).request o.senderName).body⟩ :=
    ⟨Check.allHold_append.mpr ⟨(Check.allHold_append.mp hall).1, Check.allHold_nil⟩, hurl, _, rfl, rfl⟩
  have hone : (o.withKey none).sent identity now transport asset? = [_] :=
    (sent_eq_singleton hi (by rintro _ ⟨⟩)).mpr hsends
  rw [hnone] at hone
  cases hone

/-- With a key nothing is sent unless it is sent without one. What is sent without a key is sent with a key too, with a
signature that is checked off the body alone, if the message can be written and the key signs its digest. -/
theorem sent_withKey_verifies (hi : identity.HasTextTemplates) (key : PrivateKey) :
    ((o.withKey none).sent identity now transport asset? = [] →
        (o.withKey (some key.signingKey)).sent identity now transport asset? = []) ∧
      ∀ q, (o.withKey none).sent identity now transport asset? = [q] →
        ∃ fields m, q.body = Body.withSignature fields [] ∧ Body.message? q.body = some m ∧
          (Utf8.IsEncodable m → (Message.content m).length < 256 ^ 8 →
            (∀ d, Message.digest m = .ok d → key.SignsFor d) →
            ∃ signature, signature ≠ [] ∧
              (o.withKey (some key.signingKey)).sent identity now transport asset? =
                [⟨q.url, Body.withSignature fields signature⟩] ∧
              Body.IsSignedBy (Body.withSignature fields signature) key.publicKey) := by
  refine ⟨sent_withKey_eq_nil hi key, fun q hq => ?_⟩
  obtain ⟨hall, hurl, _, rfl, hbody⟩ := (sent_eq_singleton hi (by rintro _ ⟨⟩)).mp hq
  let t := o.terms now asset?
  have hb : q.body = Body.withSignature (t.unsignedBody o.senderName) [] := hbody.trans (t.body_request _ _)
  have hm : Body.message? q.body = some t.message := hbody ▸ t.message?_body _ _
  refine ⟨_, _, hb, hm, fun he hl hs => ?_⟩
  have hd : Message.digest t.message = .ok (Sha256.doubleHash (Message.preimage t.message)) := by
    rw [Message.digest_of_isEncodable he, if_pos hl]
  obtain ⟨bs, hbs, hv⟩ := hs _ hd
  have hne : Hex.encode bs ≠ [] := by
    intro h
    obtain rfl : bs = [] := Hex.encode_injective h
    cases hv
  have hsigning : AllHold (Message.checks key.signingKey t.message) := by
    rintro c (_ | ⟨_, _ | ⟨_, _ | ⟨_, ⟨⟩⟩⟩⟩)
    exacts [he, hl, ⟨bs, hbs⟩]
  have hsends : Client.Sends identity now asset? (o.withKey (some key.signingKey))
      ⟨q.url, (t.request o.senderName (Hex.encode bs)).body⟩ :=
    ⟨Check.allHold_append.mpr ⟨(Check.allHold_append.mp hall).1, hsigning⟩, hurl, _, ⟨bs, hbs, rfl⟩, rfl⟩
  refine ⟨Hex.encode bs, hne, ?_⟩
  rw [← t.body_request]
  exact ⟨(sent_eq_singleton hi (failsPlainly_of_mem_withKey key)).mpr hsends, _, _, t.message?_body _ _,
    t.value?_signature_body _ _, (Message.verify_encode hd bs).trans hv⟩

/-- A payment in an asset is asked for without a key, and with the key whose secret is 7. -/
theorem sent_withKey_verifies_seven :
    ∃ (identity : Identity) (now : Moment) (o : PlainOrder) (transport : Transport) (q : Sent) (key : PrivateKey)
      (fields : List (Text × Value)) (signature : Text),
      identity.HasTextTemplates ∧ (o.withKey none).sent identity now transport (some "BSV") = [q] ∧
        q.body = Body.withSignature fields [] ∧ signature ≠ [] ∧
        (o.withKey (some key.signingKey)).sent identity now transport (some "BSV") =
          [⟨q.url, Body.withSignature fields signature⟩] ∧
        Body.IsSignedBy (Body.withSignature fields signature) key.publicKey := by
  let identity : Identity := ⟨⟨"alice", "example.com"⟩, .of (.text []) (.text "https://example.com/alice")⟩
  let now : Moment := ⟨⟨2020, 1, 2⟩, 15, 4, 5, 0, some 0⟩
  let o : PlainOrder := ⟨"Bob", "bob@example.org", "coffee", .int 2500, none⟩
  let transport : Transport := fun _ _ => .ok .null
  let key : PrivateKey := ⟨7, .text "mainnet", by decide⟩
  let text : Text := "bob@example.org2020-01-02T15:04:05ZBSV2500coffee"
  have hi : identity.HasTextTemplates := fun c => by cases c <;> exact ⟨_, rfl⟩
  let q : Sent := ⟨"https://example.com/alice", ((o.terms now (some "BSV")).request "Bob").body⟩
  have hall : AllHold (Client.checks identity now (some "BSV") (o.withKey none)) :=
    Client.allHold_checks (fun h => nomatch h) ⟨by decide, by decide⟩ (fun h => nomatch h) ⟨2500, by decide, rfl⟩
      Check.allHold_nil
  have hq : (o.withKey none).sent identity now transport (some "BSV") = [q] :=
    (sent_eq_singleton hi (by rintro _ ⟨⟩)).mpr ⟨hall, rfl, [], rfl, rfl⟩
  have htext : Body.message? q.body = some text := by
    rw [Terms.message?_body]
    decide +kernel
  have hkey : PrivateKey.SignsFor ⟨7, .text "mainnet", by decide⟩
      (Sha256.doubleHash (Message.preimage "bob@example.org2020-01-02T15:04:05ZBSV2500coffee")) := by
    decide +kernel
  obtain ⟨fields, m, hb, hm, hsigned⟩ := (sent_withKey_verifies hi key).2 q hq
  obtain rfl : m = text := Option.some.inj (hm.symm.trans htext)
  have he : Utf8.IsEncodable text := by decide +kernel
  have hl : (Message.content text).length < 256 ^ 8 := by decide +kernel
  have hd (d : Bytes) (h : Message.digest text = .ok d) : key.SignsFor d :=
    Message.eq_of_digest_eq_ok he hl h ▸ hkey
  obtain ⟨signature, hne, hs, hv⟩ := hsigned he hl hd
  exact ⟨identity, now, o, transport, q, key, fields, signature, hi, hq, hb, hne, hs, hv⟩

end PlainOrder

end Remit.Payment
