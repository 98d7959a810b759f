import Remit.Transaction.Basic

/-!
# Steps on a transaction

What can be done to a transaction: looking at it, adding to it and assigning its fields. Looking at its bytes makes it
keep them, looking at its hash makes it keep both, and that is all that looking changes.
-/

namespace Remit.Transaction

/-- What can be seen of the bytes of a transaction. -/
inductive View where
  | raw
  | hash
  | id
  | size
  | label
  | key
deriving DecidableEq

/-- Looks at a transaction. -/
def look (tx : Transaction) : View → Except Error (Value × Transaction)
  | .raw => tx.raw.map fun (bytes, tx) => (.bytes bytes, tx)
  | .hash => tx.hash.map fun (hash, tx) => (.bytes hash, tx)
  | .id => tx.id.map fun (name, tx) => (.text name, tx)
  | .size => tx.size.map fun (size, tx) => (.int size, tx)
  | .label => tx.label.map fun (label, tx) => (.text label, tx)
  | .key => tx.key.map fun (key, tx) => (.bytes key, tx)

/-- The fields of an input. -/
inductive Input.Field where
  | hash
  | position
  | script
  | sequence
deriving DecidableEq

/-- The input with another value in a field. -/
def Input.assign (i : Input) (field : Input.Field) (v : Value) : Input :=
  match field with
  | .hash => { i with hash := v }
  | .position => { i with position := v }
  | .script => { i with script := v }
  | .sequence => { i with sequence := v }

/-- The fields of an output. -/
inductive Output.Field where
  | amount
  | script
deriving DecidableEq

/-- The output with another value in a field. -/
def Output.assign (o : Output) (field : Output.Field) (v : Value) : Output :=
  match field with
  | .amount => { o with amount := v }
  | .script => { o with script := v }

/-- What is done to a transaction. An input or output may have been added more than once, so a field of it is assigned
at all the positions where it stands. -/
inductive Step where
  | view (view : View)
  | addInputs (inputs : List Input)
  | addOutputs (outputs : List Output)
  | setVersion (v : Value)
  | setLocktime (v : Value)
  | setInput (positions : List Nat) (field : Input.Field) (v : Value)
  | setOutput (positions : List Nat) (field : Output.Field) (v : Value)

/-- The list with the items at some positions changed. -/
def changeAt {α : Type} (positions : List Nat) (change : α → α) (items : List α) : List α :=
  items.mapIdx fun n a => if positions.contains n then change a else a

/-- Does a step. What a view shows is its result. A view that fails changes nothing. -/
def perform (tx : Transaction) : Step → Except Error Value × Transaction
  | .view view =>
    match tx.look view with
    | .ok (shown, tx) => (.ok shown, tx)
    | .error e => (.error e, tx)
  | .addInputs inputs => (.ok .null, tx.addInputs inputs)
  | .addOutputs outputs => (.ok .null, tx.addOutputs outputs)
  | .setVersion v => (.ok .null, { tx with version := v })
  | .setLocktime v => (.ok .null, { tx with locktime := v })
  | .setInput positions field v => (.ok .null, { tx with inputs := changeAt positions (·.assign field v) tx.inputs })
  | .setOutput positions field v => (.ok .null, { tx with outputs := changeAt positions (·.assign field v) tx.outputs })

/-- The transaction after steps. -/
def after (steps : List Step) (tx : Transaction) : Transaction := steps.foldl (fun tx step => (tx.perform step).2) tx

end Remit.Transaction
