import Remit.Identity
import Remit.Payment.Call
import Remit.Payment.Request
import Remit.Payment.Response
import Remit.Timestamp

/-!
# Clients

Asks the service of an identity where to pay, or for a payment. All that can be checked without the service is checked
first: that the site has the service, the time, the handle and the amount, and the signature. Then one request is sent,
and the answer is read.
-/

namespace Remit.Payment

/-- What a sender wants to tell a service. -/
structure Order where
  senderName : Value
  senderHandle : Value
  purpose : Value
  amount : Value
  key? : Option SigningKey := none

namespace Client

/-- The capability that serves requests of a kind. -/
def capability : Request.Kind → Capability
  | .destination => .paymentDestination
  | .payment _ => .paymentRequest

/-- The address and the request that is to be sent there. -/
def prepare (identity : Identity) (now : Moment) (kind : Request.Kind) (order : Order) :
    Except Error (Text × Request) := do
  let url ← identity.urlFor (capability kind).name
  let timestamp ← now.timestamp
  let request ← Request.check
    { kind, senderName := order.senderName, senderHandle := order.senderHandle, timestamp, amount := order.amount,
      purpose := order.purpose }
  return (url, ← request.sign order.key?)

/-- Is it a failure that a client reports as one of the transport? A cancelled task is not. -/
def isTransportFailure : Error → Bool
  | .mishap m => m.category != .cancelled
  | _ => true

/-- What is said when a request gets no answer. -/
def noAnswer (c : Capability) (url : Text) (e : Error) : Text :=
  c.name ++ " request to " ++ url ++ " failed: " ++ e.message

/-- What is said when an answer is of no use; `what` is missing from it. -/
def badAnswer (what : String) (identity : Identity) (e : Error) : Text :=
  "invalid " ++ what ++ " from " ++ identity.handle.text ++ ": " ++ e.message

/-- Reads an answer and warns of an error that `isNoted` picks. -/
def conclude {α : Type} (what : String) (identity : Identity) (isNoted : Error → Bool) (read : Value → Except Error α)
    (data : Value) : Call α :=
  match read data with
  | .ok a => .done (.ok a) []
  | .error e => .done (.error e) (if isNoted e then [badAnswer what identity e] else [])

/-- Sends a request and goes on with the answer. A failure on the way is warned of, if it can be put in words. -/
def exchange {α : Type} (c : Capability) (url : Text) (request : Request) (next : Value → Call α) : Call α :=
  .ask ⟨url, request.body⟩ fun
    | .ok data => next data
    | .error e =>
      if isTransportFailure e then
        .done (.error (Error.raised (.transport url e))) (if e.isShowable then [noAnswer c url e] else [])
      else .done (.error e) []

/-- Asks for the script to pay to. -/
def paymentDestination (identity : Identity) (now : Moment) (order : Order) : Call Bytes :=
  match prepare identity now .destination order with
  | .error e => .ofExcept (.error e)
  | .ok (url, request) =>
    exchange .paymentDestination url request
      (conclude "payment destination" identity (fun e => e.isA .format || e.isA .emptyResult)
        fun data => do (← DestinationResponse.ofValue data).lockingScript)

/-- Asks for a payment in an asset. -/
def paymentRequest (identity : Identity) (now : Moment) (asset : Value) (order : Order) : Call PaymentTemplate :=
  match prepare identity now (.payment asset) order with
  | .error e => .ofExcept (.error e)
  | .ok (url, request) =>
    exchange .paymentRequest url request
      (conclude "payment request" identity (fun e => e.isA .format)
        fun data => do (← PaymentResponse.ofValue data).decode)

end Client

end Remit.Payment
