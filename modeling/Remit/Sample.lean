import Remit.Payment.Client

/-!
# Samples

An identity, an output, a transaction and a moment to try the library on. Every part can be replaced.
-/

namespace Remit.Sample

/-- The handle of the sample identity. -/
def handle : Value := "alice@example.com"

/-- The template of the service that tells where to pay. -/
def destinationTemplate : Value := "https://\x7bdomain.tld\x7d/api/\x7balias\x7d/payment-destination"

/-- The template of the service that asks for payments. -/
def requestTemplate : Value := "https://\x7bdomain.tld\x7d/api/\x7balias\x7d/payment-request"

/-- An identity whose site has both services. -/
def identity (destination : Value := destinationTemplate) (request : Value := requestTemplate)
    (name : Value := handle) : Except Error Identity :=
  Identity.ofHandle name (.of destination request)

/-- A hash of a public key. -/
def pubkeyHash : Bytes := List.replicate 20 0x11

/-- An output that pays to the hash of a public key. -/
def output (amount : Value := .int 1000) (hash : Bytes := pubkeyHash) : Except Error Transaction.Output :=
  Transaction.Output.payPubkeyHash amount hash

/-- An input that spends the second output of some transaction. -/
def input : Transaction.Input := { hash := .bytes (List.replicate 32 0x22), position := .int 1 }

/-- A transaction of the sample input, unless it is not wanted, and the given outputs, or the sample output if there are
none. -/
def transaction (outputs : List Transaction.Output := []) (withInput : Bool := true) : Except Error Transaction := do
  let tx : Transaction := ({} : Transaction).addInputs (if withInput then [input] else [])
  if outputs.isEmpty then return tx.addOutputs [← output] else return tx.addOutputs outputs

/-- A moment in universal time. -/
def now : Moment := ⟨⟨2020, 1, 2⟩, 15, 4, 5, 0, some 0⟩

end Remit.Sample
