import Remit.Payment.Client
import Remit.Proofs.Capabilities
import Remit.Proofs.Payment.Response
import Remit.Proofs.Payment.Terms

/-!
# Dispatch

A client first checks all that it can check by itself, in a fixed order. If something does not hold, the first such
thing is reported, nothing is sent and nothing is warned of. Otherwise one question is sent, and never another one. If
no answer comes, or one that is of no use, this is reported and warned of once; only a cancelled task is passed on
without a word. A report that would show what cannot be shown fails itself, but makes no difference to what is sent.
-/

namespace Remit

/-- All templates are texts. -/
def Identity.HasTextTemplates (i : Identity) : Prop := ∀ c, ∃ t : Text, i.capabilities.template c = .text t

namespace Payment

open Check (AllHold FirstFault Settles)

/-! ## Orders -/

/-- An order whose fields are texts, but for the amount, which may be anything. -/
structure PlainOrder where
  senderName : Text
  senderHandle : Text
  purpose : Text
  amount : Value
  key? : Option SigningKey := none

namespace PlainOrder

/-- The order as it is given to a client. -/
def order (o : PlainOrder) : Order where
  senderName := .text o.senderName
  senderHandle := .text o.senderHandle
  purpose := .text o.purpose
  amount := o.amount
  key? := o.key?

/-- The terms that are asked for at a moment. A time that has no timestamp and an amount that is none are taken as the
first ones there are. -/
def terms (o : PlainOrder) (now : Moment) (asset? : Option Text) : Terms where
  senderHandle := o.senderHandle
  timestamp := Moment.timestampOf now.utcSeconds.toNat
  asset?
  amount := (o.amount.toInt?.getD 0).toNat
  purpose := o.purpose

end PlainOrder

/-! ## Checks -/

namespace Client

/-- The site has the capability. -/
def capabilityCheck (identity : Identity) (c : Capability) : Check :=
  .of (identity.capabilities.template c ≠ .text []) (.notCapable c.name)

/-- The time falls into the years 1 to 9999. -/
def timeCheck (now : Moment) : Check := .of (0 ≤ now.utcSeconds ∧ now.utcSeconds < Moment.endOfTime) .timeOutOfRange

/-- There is a sender's handle. -/
def handleCheck (handle : Text) : Check := .of (handle ≠ []) .missingSenderHandle

/-- The amount is a number of at most 64 bits. -/
def amountCheck (amount : Value) : Check :=
  .of (∃ n : Nat, n < 2 ^ 64 ∧ amount = .int n) (Error.raised (.invalidAmount amount))

/-- A message can be signed, if there is a key. -/
def signingChecks (key? : Option SigningKey) (m : Text) : List Check :=
  match key? with
  | none => []
  | some key => Message.checks key m

/-- The signature that goes with a message: none without a key. -/
def IsSignature (key? : Option SigningKey) (m signature : Text) : Prop :=
  match key? with
  | none => signature = []
  | some key => ∃ bs, key.signDigest (Sha256.doubleHash (Message.preimage m)) = .ok bs ∧ signature = Hex.encode bs

/-- What has to hold before anything is sent, in order. -/
def checks (identity : Identity) (now : Moment) (asset? : Option Text) (o : PlainOrder) : List Check :=
  [capabilityCheck identity (capability (.of asset?)), timeCheck now, handleCheck o.senderHandle,
    amountCheck o.amount] ++ signingChecks o.key? (o.terms now asset?).message

theorem allHold_checks {identity : Identity} {now : Moment} {asset? : Option Text} {o : PlainOrder}
    (hc : (capabilityCheck identity (capability (.of asset?))).holds) (ht : (timeCheck now).holds)
    (hh : (handleCheck o.senderHandle).holds) (ha : (amountCheck o.amount).holds)
    (hs : AllHold (signingChecks o.key? (o.terms now asset?).message)) : AllHold (checks identity now asset? o) := by
  refine Check.allHold_append.mpr ⟨?_, hs⟩
  rintro c (_ | ⟨_, _ | ⟨_, _ | ⟨_, _ | ⟨_, ⟨⟩⟩⟩⟩⟩)
  exacts [hc, ht, hh, ha]

/-! ## Steps of preparing a request -/

theorem settles_urlFor {identity : Identity} (hi : identity.HasTextTemplates) (c : Capability) :
    Settles [capabilityCheck identity c] (fun url => identity.urlFor c.name = .ok url) (identity.urlFor c.name) := by
  obtain ⟨t, ht⟩ := hi c
  rw [Identity.urlFor_of_template ht]
  cases t with
  | nil =>
    rw [if_pos rfl]
    exact .single (fun _ h => nomatch h) (fun e h => ⟨fun hn => hn ht, (Except.error.inj h).symm⟩)
  | cons x t =>
    have hn : identity.capabilities.template c ≠ .text [] := fun hn => nomatch ht.symm.trans hn
    rw [if_neg (List.cons_ne_nil x t)]
    exact .single (fun _ h => ⟨hn, h⟩) (fun _ h => nomatch h)

theorem settles_timestamp (now : Moment) :
    Settles [timeCheck now] (· = Moment.timestampOf now.utcSeconds.toNat) now.timestamp := by
  rw [timeCheck, Moment.timestamp]
  cases now.utcSeconds with
  | negSucc n =>
    refine .single (fun _ h => nomatch h) (fun _ h => ⟨fun hs => ?_, (Except.error.inj h).symm⟩)
    exact absurd hs.1 (Int.negSucc_not_nonneg n).mp
  | ofNat seconds =>
    dsimp only
    split
    case isTrue hs =>
      have hn : 0 ≤ Int.ofNat seconds ∧ Int.ofNat seconds < Moment.endOfTime :=
        ⟨Int.natCast_nonneg _, Int.ofNat_lt.mpr hs⟩
      exact .single (fun _ h => ⟨hn, (Except.ok.inj h).symm⟩) (fun _ h => nomatch h)
    case isFalse hs =>
      exact .single (fun _ h => nomatch h) (fun _ h => ⟨fun hn => hs (Int.ofNat_lt.mp hn.2), (Except.error.inj h).symm⟩)

theorem isAmount_eq_true {v : Value} : Request.isAmount v = true ↔ ∃ n : Nat, n < 2 ^ 64 ∧ v = .int n := by
  cases v with
  | int i =>
    rw [Request.isAmount, Bool.and_eq_true, decide_eq_true_eq, decide_eq_true_eq, Request.maxAmount]
    constructor
    · rintro ⟨h₀, h⟩
      exact ⟨i.toNat, by omega, by rw [Int.toNat_of_nonneg h₀]⟩
    · rintro ⟨n, hn, h⟩
      obtain rfl := Value.int.inj h
      omega
  | _ => exact iff_of_false (fun h => nomatch h) (fun ⟨_, _, h⟩ => nomatch h)

/-- A request for terms and an amount that is not looked at yet. -/
theorem settles_check (t : Terms) (senderName : Text) (amount : Value) :
    Settles [handleCheck t.senderHandle, amountCheck amount]
      (· = { t with amount := (amount.toInt?.getD 0).toNat }.request senderName)
      (Request.check { t.request senderName with amount }) := by
  have hh : (Value.text t.senderHandle).isTruthy = true ↔ t.senderHandle ≠ [] := by
    rw [Value.isTruthy, Bool.not_eq_true', ← Bool.not_eq_true, List.isEmpty_iff]
  refine .test hh rfl fun _ => .test isAmount_eq_true rfl fun ha => ?_
  obtain ⟨n, -, rfl⟩ := ha
  exact .ok rfl

theorem settles_sign {key? : Option SigningKey} (hk : ∀ key ∈ key?, key.FailsPlainly) (t : Terms) (senderName : Text) :
    Settles (signingChecks key? t.message)
      (fun r => ∃ signature, IsSignature key? t.message signature ∧ r = t.request senderName signature)
      ((t.request senderName).sign key?) := by
  cases key? with
  | none => exact .ok ⟨[], rfl, rfl⟩
  | some key =>
    have hs := Message.settles_sign (hk key rfl) t.message
    rw [Request.sign, Terms.message_request]
    exact hs.bind_pure fun signature hsig => ⟨signature, hsig, rfl⟩

/-- All checks are made in order, and then the request is the one on the terms that are asked for, with the signature
that goes with them. -/
theorem settles_prepare {identity : Identity} (hi : identity.HasTextTemplates) (now : Moment) (asset? : Option Text)
    {o : PlainOrder} (hk : ∀ key ∈ o.key?, key.FailsPlainly) :
    Settles (checks identity now asset? o)
      (fun p => identity.urlFor (capability (.of asset?)).name = .ok p.1 ∧
        ∃ signature, IsSignature o.key? (o.terms now asset?).message signature ∧
          p.2 = (o.terms now asset?).request o.senderName signature)
      (prepare identity now (.of asset?) o.order) := by
  refine (settles_urlFor hi _).cons fun url hu => ?_
  refine (settles_timestamp now).cons fun time ht => ?_
  subst ht
  refine (settles_check (o.terms now asset?) o.senderName o.amount).bind fun r hr => ?_
  subst hr
  exact (settles_sign hk _ _).bind_pure fun r hr => ⟨hu, hr⟩

/-- All that can be checked holds, and the question that is sent goes to the address of the service: the request on the
terms that are asked for, with the signature that goes with them. -/
structure Sends (identity : Identity) (now : Moment) (asset? : Option Text) (o : PlainOrder) (q : Sent) : Prop where
  allHold : AllHold (checks identity now asset? o)
  url : identity.urlFor (capability (.of asset?)).name = .ok q.url
  body : ∃ signature, IsSignature o.key? (o.terms now asset?).message signature ∧
    q.body = ((o.terms now asset?).request o.senderName signature).body

theorem IsSignature.unique {key? : Option SigningKey} {m t u : Text} (ht : IsSignature key? m t)
    (hu : IsSignature key? m u) : t = u := by
  cases key? with
  | none => exact ht.trans hu.symm
  | some key =>
    obtain ⟨bs, hb, rfl⟩ := ht
    obtain ⟨cs, hc, rfl⟩ := hu
    rw [Except.ok.inj (hb.symm.trans hc)]

theorem Sends.unique {identity : Identity} {now : Moment} {asset? : Option Text} {o : PlainOrder} {p q : Sent}
    (hp : Sends identity now asset? o p) (hq : Sends identity now asset? o q) : p = q := by
  obtain ⟨url, body⟩ := p
  obtain ⟨url', body'⟩ := q
  obtain ⟨-, hu, signature, hs, rfl⟩ := hp
  obtain ⟨-, hu', signature', hs', rfl⟩ := hq
  rw [hs.unique hs', show url = url' from Except.ok.inj (hu.symm.trans hu')]

end Client

/-! ## Services -/

/-- A service as a client sees it: what is asked of it, how its answers are read, and what they have to pass. -/
structure Service (α : Type) where
  asset? : Option Text
  what : String
  isNoted : Error → Bool
  read : Value → Except Error α
  checks : Value → List Check
  IsReadAs : Value → α → Prop
  settles : ∀ data, data.HasTextKeys → Settles (checks data) (IsReadAs data) (read data)
  isNoted_of_reports : ∀ data, ∀ c ∈ checks data, ∀ e, c.reports e → isNoted e = true

namespace Service

/-- The service that tells where to pay to. -/
def destination : Service Bytes where
  asset? := none
  what := "payment destination"
  isNoted e := e.isA .format || e.isA .emptyResult
  read data := do (← DestinationResponse.ofValue data).lockingScript
  checks := DestinationResponse.checks
  IsReadAs data script := Hex.Spells (data.textUnder "output") script ∧ script ≠ []
  settles _ := DestinationResponse.settles_read
  isNoted_of_reports _ _ := DestinationResponse.isA_format_or_emptyResult_of_reports

/-- The service that asks for payments in an asset. -/
def payment (asset : Text) : Service PaymentTemplate where
  asset? := some asset
  what := "payment request"
  isNoted e := e.isA .format
  read data := do (← PaymentResponse.ofValue data).decode
  checks := PaymentResponse.checks
  IsReadAs := PaymentResponse.Spelled
  settles _ := PaymentResponse.settles_read
  isNoted_of_reports _ _ := PaymentResponse.isA_format_of_reports

variable {α : Type}

/-- The capability that the site has to have. -/
def capability (s : Service α) : Capability := Client.capability (.of s.asset?)

/-- The call that asks the service. -/
def call (s : Service α) (identity : Identity) (now : Moment) (o : PlainOrder) : Call α :=
  match Client.prepare identity now (.of s.asset?) o.order with
  | .error e => .ofExcept (.error e)
  | .ok (url, request) =>
    Client.exchange s.capability url request (Client.conclude s.what identity s.isNoted s.read)

/-- What is warned of when an answer has been read. -/
def warnings (s : Service α) (identity : Identity) (data : Value) : List Text :=
  match s.read data with
  | .ok _ => []
  | .error e => if s.isNoted e then [Client.badAnswer s.what identity e] else []

theorem conclude_eq (s : Service α) (identity : Identity) (data : Value) :
    Client.conclude s.what identity s.isNoted s.read data = .done (s.read data) (s.warnings identity data) := by
  rw [Client.conclude, warnings]
  cases s.read data <;> rfl

section

variable (s : Service α) (identity : Identity) (now : Moment) (o : PlainOrder) (transport : Transport)

/-- What a call comes to. -/
inductive Ends : Outcome α → Prop
  /-- Something does not hold that has to: nothing is sent. -/
  | refused {e : Error} (he : FirstFault (Client.checks identity now s.asset? o) e) : Ends ⟨.error e, [], []⟩
  /-- The question fails on the way. -/
  | unanswered {q : Sent} {e : Error} (hq : Client.Sends identity now s.asset? o q)
    (ht : transport q.url q.body = .error e) (he : Client.isTransportFailure e = true) (hs : e.isShowable = true) :
    Ends ⟨.error (.transport q.url e), [q], [Client.noAnswer s.capability q.url e]⟩
  /-- The question fails on the way, and the failure cannot be put in words. -/
  | unspoken {q : Sent} {e : Error} (hq : Client.Sends identity now s.asset? o q)
    (ht : transport q.url q.body = .error e) (he : Client.isTransportFailure e = true) (hs : e.isShowable = false) :
    Ends ⟨.error .tooLongToShow, [q], []⟩
  /-- The task is cancelled on the way. -/
  | cancelled {q : Sent} {e : Error} (hq : Client.Sends identity now s.asset? o q)
    (ht : transport q.url q.body = .error e) (he : Client.isTransportFailure e = false) : Ends ⟨.error e, [q], []⟩
  /-- The answer does not pass. -/
  | useless {q : Sent} {data : Value} {e : Error} (hq : Client.Sends identity now s.asset? o q)
    (ht : transport q.url q.body = .ok data) (hd : data.HasTextKeys) (he : FirstFault (s.checks data) e) :
    Ends ⟨.error e, [q], [Client.badAnswer s.what identity e]⟩
  /-- The answer passes. -/
  | answered {q : Sent} {data : Value} {a : α} (hq : Client.Sends identity now s.asset? o q)
    (ht : transport q.url q.body = .ok data) (hd : data.HasTextKeys) (hp : AllHold (s.checks data))
    (ha : s.IsReadAs data a) : Ends ⟨.ok a, [q], []⟩
  /-- The answer is none that came as text: its keys are no texts, or one stands there twice. -/
  | foreign {q : Sent} {data : Value} (hq : Client.Sends identity now s.asset? o q)
    (ht : transport q.url q.body = .ok data) (hd : ¬ data.HasTextKeys) : Ends ⟨s.read data, [q], s.warnings identity data⟩

end

variable {s : Service α} {identity : Identity} {now : Moment} {o : PlainOrder} {transport : Transport} {q : Sent}

theorem ends_of_answer (hq : Client.Sends identity now s.asset? o q) {data : Value}
    (ht : transport q.url q.body = .ok data) :
    s.Ends identity now o transport ⟨s.read data, [q], s.warnings identity data⟩ := by
  by_cases hd : data.HasTextKeys
  · have hs := s.settles data hd
    rw [warnings]
    cases hr : s.read data with
    | ok a =>
      rw [hr] at hs
      exact .answered hq ht hd hs.1 hs.2
    | error e =>
      rw [hr] at hs
      obtain ⟨c, hc, he⟩ := Check.FirstFault.exists_reports hs
      dsimp only
      rw [if_pos (s.isNoted_of_reports data c hc e he)]
      exact .useless hq ht hd hs
  · exact .foreign hq ht hd

theorem raised_transport (url : Text) (e : Error) :
    (Error.transport url e).raised = if e.isShowable then .transport url e else .tooLongToShow := rfl

/-- A question that is sent is the only one, whatever becomes of it. -/
theorem ends_of_sends {url : Text} {r : Request} (hq : Client.Sends identity now s.asset? o ⟨url, r.body⟩) :
    s.Ends identity now o transport
      ((Client.exchange s.capability url r (Client.conclude s.what identity s.isNoted s.read)).run transport) := by
  rw [Client.exchange, Call.run]
  cases ht : transport url r.body with
  | ok data =>
    dsimp only
    rw [conclude_eq]
    exact ends_of_answer hq ht
  | error e =>
    dsimp only
    split
    case isTrue he =>
      rw [raised_transport]
      cases hs : e.isShowable with
      | true => exact .unanswered hq ht he hs
      | false => exact .unspoken hq ht he hs
    case isFalse he => exact .cancelled hq ht (Bool.not_eq_true _ ▸ he)

theorem ends (hi : identity.HasTextTemplates) (hk : ∀ key ∈ o.key?, key.FailsPlainly) :
    s.Ends identity now o transport ((s.call identity now o).run transport) := by
  have hp := Client.settles_prepare hi now s.asset? hk
  rw [call]
  cases hr : Client.prepare identity now (.of s.asset?) o.order with
  | error e =>
    rw [hr] at hp
    exact .refused hp
  | ok p =>
    rw [hr] at hp
    obtain ⟨hc, hu, signature, hs, hb⟩ := hp
    exact ends_of_sends ⟨hc, hu, signature, hs, congrArg Request.body hb⟩

/-- A call sends nothing or one question. -/
theorem Ends.sent_eq_nil_or_singleton {outcome : Outcome α} (h : s.Ends identity now o transport outcome) :
    outcome.sent = [] ∨ ∃ q, outcome.sent = [q] := by
  cases h with
  | refused => exact .inl rfl
  | unanswered | unspoken | cancelled | useless | answered | foreign => exact .inr ⟨_, rfl⟩

/-- The one question that a call sends, if it sends any. -/
theorem Ends.sent_eq_singleton {outcome : Outcome α} (h : s.Ends identity now o transport outcome) :
    outcome.sent = [q] ↔ Client.Sends identity now s.asset? o q := by
  have hsent {p : Sent} (hp : Client.Sends identity now s.asset? o p) :
      [p] = [q] ↔ Client.Sends identity now s.asset? o q :=
    ⟨fun h => List.singleton_injective h ▸ hp, fun hq => congrArg (fun x => [x]) (hp.unique hq)⟩
  cases h with
  | refused he => exact iff_of_false (fun h => nomatch h) (fun hq => hq.allHold.not_firstFault he)
  | unanswered hp _ _ _ => exact hsent hp
  | unspoken hp _ _ _ => exact hsent hp
  | cancelled hp _ _ => exact hsent hp
  | useless hp _ _ _ => exact hsent hp
  | answered hp _ _ _ _ => exact hsent hp
  | foreign hp _ _ => exact hsent hp

end Service

namespace Client

end Client

end Payment

end Remit
