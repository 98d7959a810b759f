import Remit.Error

/-!
# Calls

A computation that may ask a service, one question after the other, and that ends in a result and the warnings it
leaves. What answers the questions is chosen when the call is run.
-/

namespace Remit.Payment

/-- What answers a question: the body sent to an address. -/
abbrev Transport := Text → List (Text × Value) → Except Error Value

/-- A question that was sent. -/
structure Sent where
  url : Text
  body : List (Text × Value)

/-- A computation that may ask a service. -/
inductive Call (α : Type) where
  | done (result : Except Error α) (warnings : List Text)
  | ask (question : Sent) (next : Except Error Value → Call α)

/-- What a call came to: its result, the questions that were sent and the warnings, all in order. -/
structure Outcome (α : Type) where
  result : Except Error α
  sent : List Sent
  warnings : List Text

namespace Call

/-- A call that ends at once. -/
def ofExcept {α : Type} (result : Except Error α) : Call α := .done result []

/-- Adds warnings in front of those of a call. -/
def warn {α : Type} (warnings : List Text) : Call α → Call α
  | .done result others => .done result (warnings ++ others)
  | .ask question next => .ask question fun answer => warn warnings (next answer)

/-- The call that goes on with `f` where another one ends in success. -/
def andThen {α β : Type} (f : α → Call β) : Call α → Call β
  | .done (.ok a) warnings => (f a).warn warnings
  | .done (.error e) warnings => .done (.error e) warnings
  | .ask question next => .ask question fun answer => andThen f (next answer)

/-- Runs a call against a transport. -/
def run {α : Type} (transport : Transport) : Call α → Outcome α
  | .done result warnings => ⟨result, [], warnings⟩
  | .ask question next =>
    let outcome := run transport (next (transport question.url question.body))
    { outcome with sent := question :: outcome.sent }

end Call

end Remit.Payment
