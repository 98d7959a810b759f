import Remit.Error

/-!
# Capabilities

What the site of a host can do, and under which address. A site publishes a document of names and templates; only the
two capabilities known here count, each under either of its two names.
-/

namespace Remit

/-- What can be asked of a site. -/
inductive Capability where
  | paymentDestination
  | paymentRequest
deriving DecidableEq

namespace Capability

/-- The capabilities in order. -/
def all : List Capability := [.paymentDestination, .paymentRequest]

/-- The name of a capability. -/
def name : Capability → Text
  | .paymentDestination => "payment-destination"
  | .paymentRequest => "payment-request"

/-- The other name that documents use. -/
def otherName : Capability → Text
  | .paymentDestination => "paymentDestination"
  | .paymentRequest => "paymentRequest"

/-- The capability of a name. -/
def ofName? (name : Text) : Option Capability := all.find? fun c => c.name == name

/-- The capability that a document means by a name. -/
def ofDocumentName? (name : Text) : Option Capability := all.find? fun c => c.name == name || c.otherName == name

end Capability

/-- The template of each capability; an empty one stands for a capability that is lacking. -/
structure Capabilities where
  paymentDestination : Value
  paymentRequest : Value

namespace Capabilities

/-- A template, with everything that counts as false replaced by the empty one. -/
def templateOf (v : Value) : Value := if v.isTruthy then v else ""

/-- The capabilities with given templates. -/
def of (paymentDestination paymentRequest : Value) : Capabilities :=
  ⟨templateOf paymentDestination, templateOf paymentRequest⟩

/-- No capabilities. -/
def empty : Capabilities := of "" ""

/-- The template of a capability. -/
def template (cs : Capabilities) : Capability → Value
  | .paymentDestination => cs.paymentDestination
  | .paymentRequest => cs.paymentRequest

/-- The capabilities with one template replaced. -/
def set (c : Capability) (template : Value) (cs : Capabilities) : Capabilities :=
  match c with
  | .paymentDestination => { cs with paymentDestination := template }
  | .paymentRequest => { cs with paymentRequest := template }

/-- One entry of a document: it counts if its name is known and its template is a text. -/
def enter (cs : Capabilities) (entry : Text × Value) : Capabilities :=
  match Capability.ofDocumentName? entry.1, entry.2 with
  | some c, .text t => cs.set c (.text t)
  | _, _ => cs

/-- The capabilities of a document. Of entries that mean the same capability the last one counts. -/
def ofDocument (entries : List (Text × Value)) : Capabilities := entries.foldl enter empty

/-- The template under a name; the empty one for names that are not known. -/
def get (cs : Capabilities) (name : Text) : Value := ((Capability.ofName? name).map cs.template).getD ""

/-- Is there a template under a name? -/
def supports (cs : Capabilities) (name : Text) : Bool := (cs.get name).isTruthy

/-- The templates in order. -/
def templates (cs : Capabilities) : List Value := Capability.all.map cs.template

instance : BEq Capabilities := ⟨fun cs ds => Value.list cs.templates == Value.list ds.templates⟩

/-- A short text that names what is supported. -/
def label (cs : Capabilities) : Text :=
  let names := (Capability.all.filter fun c => (cs.template c).isTruthy).map Capability.name
  "Capabilities(" ++ Text.joinWith ", " names ++ ")"

end Capabilities

end Remit
