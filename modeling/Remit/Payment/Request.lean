import Remit.Signing

/-!
# Requests

What is sent to a service: who asks, when, for which amount and why. A request for a payment also names the asset. Its
fields hold whatever a caller put there, but for the sender's handle, which is given, and the amount, which fits into
64 bits. The signature covers all fields but the sender's name.
-/

namespace Remit.Payment

/-- What a request asks for. -/
inductive Request.Kind where
  | destination
  | payment (asset : Value)

/-- A request. -/
structure Request where
  kind : Request.Kind
  senderName : Value
  senderHandle : Value
  timestamp : Value
  amount : Value
  purpose : Value := ""
  signature : Value := ""

namespace Request

/-- The greatest amount. -/
def maxAmount : Nat := 2 ^ 64 - 1

/-- Is a value an amount? Truth values are none. -/
def isAmount : Value → Bool
  | .int i => 0 ≤ i && i ≤ maxAmount
  | _ => false

/-- Requires a sender's handle and an amount; the handle is looked at first. -/
def check (r : Request) : Except Error Request :=
  if !r.senderHandle.isTruthy then .error .missingSenderHandle
  else if !isAmount r.amount then .error (Error.raised (.invalidAmount r.amount))
  else .ok r

/-- The fields that are signed, in order. -/
def signedFields (r : Request) : List Value :=
  let amount : Value := .text r.amount.shown
  match r.kind with
  | .destination => [r.senderHandle, r.timestamp, amount, r.purpose]
  | .payment asset => [r.senderHandle, r.timestamp, asset, amount, r.purpose]

/-- The message that is signed: the signed fields, one after the other. All of them have to be texts. -/
def message (r : Request) : Except Error Text :=
  match r.signedFields.mapM Value.toText? with
  | some parts => .ok parts.flatten
  | none => .error .wrongType

/-- The request with a signature. -/
def withSignature (signature : Value) (r : Request) : Request := { r with signature }

/-- Does the request carry a signature? -/
def isSigned (r : Request) : Bool := r.signature.isTruthy

/-- What is sent, as names and values. -/
def body (r : Request) : List (Text × Value) :=
  let sender : List (Text × Value) :=
    [("senderName", r.senderName), ("senderHandle", r.senderHandle), ("dt", r.timestamp)]
  let asset : List (Text × Value) := match r.kind with
    | .destination => []
    | .payment asset => [("assetID", asset)]
  let order : List (Text × Value) := [("amount", r.amount), ("purpose", r.purpose), ("signature", r.signature)]
  sender ++ asset ++ order

/-- The request signed with a key; without one it is left as it is. -/
def sign (key? : Option SigningKey) (r : Request) : Except Error Request :=
  match key? with
  | none => .ok r
  | some key => do return r.withSignature (← Message.sign key (← r.message))

instance : BEq Request := ⟨fun r s => r.body.map (·.1) == s.body.map (·.1) &&
  Value.list (r.body.map (·.2)) == Value.list (s.body.map (·.2))⟩

end Request

end Remit.Payment
