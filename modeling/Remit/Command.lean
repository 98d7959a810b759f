import Remit.Payment.Client
import Remit.Settings.Source
import Remit.Settings.Standard

/-!
# Commands

The command line of the program. A command asks the service of an identity, whose address template is given, and prints
the answer as JSON. Errors of the library's own kinds are told on the error stream; all others are passed on.
-/

namespace Remit

open Payment

/-- A command: what to ask for, whom, and the values that the command line gives to settings. -/
structure Command where
  kind : Request.Kind
  handle : Value
  amount : Value
  urlTemplate : Value
  purpose : Value
  given : List (Text × Value)

namespace Command

/-! ## Reading the command line -/

/-- What is displayed on request. -/
def usage : Text :=
  "usage: bsvalias [--help] [--version] payment-destination|payment-request HANDLE AMOUNT --url-template TEMPLATE " ++
    "[--asset-id ASSET] [--purpose TEXT] [settings]\n"

/-- The options that ask for help. -/
def helpFlags : List Arguments.Flag := [⟨"-h", "help", .display usage⟩, ⟨"--help", "help", .display usage⟩]

/-- The options in front of the name of a command. -/
def leadingFlags : List Arguments.Flag :=
  helpFlags ++ [⟨"--version", "version", .display ("bsvalias " ++ version ++ "\n")⟩]

/-- The options of every command. -/
def commonFlags (schema : List Setting) : List Arguments.Flag :=
  helpFlags ++ [⟨"--url-template", "url_template", .take⟩, ⟨"--purpose", "purpose", .take⟩] ++ Settings.flags schema

/-- The operands of every command. -/
def operands : List Arguments.Operand :=
  [⟨"handle", fun t => some (.text t)⟩, ⟨"amount", fun t => (Numeral.int? t).map .int⟩]

/-- The grammar of the command that asks for a capability. -/
def grammar (schema : List Setting) : Capability → Arguments.Grammar
  | .paymentDestination => ⟨commonFlags schema, operands, ["url_template"]⟩
  | .paymentRequest =>
    ⟨commonFlags schema ++ [⟨"--asset-id", "asset_id", .take⟩], operands, ["url_template"]⟩

/-- The value under a name, or the empty text. -/
def valueOf (values : List (Text × Value)) (name : Text) : Value := (Layer.get? values name).getD ""

/-- The command that a command line spells. -/
def read (schema : List Setting) (line : List Text) : Except Arguments.Stop Command := do
  let (name, values) ← Arguments.readCommand leadingFlags (fun name => (Capability.ofName? name).map (grammar schema)) line
  let kind : Request.Kind :=
    if name = Capability.paymentRequest.name then .payment (valueOf values "asset_id") else .destination
  return { kind, handle := valueOf values "handle", amount := valueOf values "amount",
           urlTemplate := valueOf values "url_template", purpose := valueOf values "purpose", given := values }

/-! ## Doing it -/

/-- An output as it is printed. -/
def outputValue (o : Transaction.Output) : Except Error Value := do
  match o.script with
  | .bytes script => return .mapping [("amount", o.amount), ("script", Hex.encode script)]
  | _ => .error .wrongType

/-- An input as it is printed. -/
def inputValue (i : Transaction.Input) : Except Error Value := do
  return .mapping [("txo", .text (← i.outpoint)), ("sequence", i.sequence)]

/-- A transaction as it is printed. -/
def transactionValue (tx : Transaction) : Except Error Value := do
  let (name, tx) ← tx.id
  let (raw, tx) ← tx.raw
  return .mapping [("txid", name), ("hex", Hex.encode raw), ("version", tx.version),
    ("locktime", tx.locktime), ("inputs", .list (← tx.inputs.mapM inputValue)),
    ("outputs", .list (← tx.outputs.mapM outputValue))]

/-- A payment as it is printed. -/
def paymentValue (p : PaymentTemplate) : Except Error Value := do
  return .mapping [("tx", ← transactionValue p.transaction), ("outputs", .list (← p.outputs.mapM outputValue))]

/-- The key under which requests are signed, if there is one. -/
def signingKey? (secret : Value) : Except Error (Option SigningKey) :=
  if secret.isTruthy then (PrivateKey.ofImport secret).map fun key => some key.signingKey else .ok none

/-- What a command needs before it asks the service. -/
def prepare (setting : Text → Except Error Value) (c : Command) : Except Error (Identity × Order) := do
  let key? ← signingKey? (← setting "sender_key")
  let senderHandle ← setting "sender_handle"
  let capabilities := match c.kind with
    | .destination => Capabilities.of c.urlTemplate ""
    | .payment _ => Capabilities.of "" c.urlTemplate
  let identity ← Identity.ofHandle c.handle capabilities
  return (identity, ⟨← setting "sender_name", senderHandle, c.purpose, c.amount, key?⟩)

/-- Asks the service; the result is what is to be printed. -/
def call (setting : Text → Except Error Value) (now : Moment) (c : Command) : Call Value :=
  match c.prepare setting with
  | .error e => .ofExcept (.error e)
  | .ok (identity, order) =>
    match c.kind with
    | .destination =>
      (Client.paymentDestination identity now order).andThen fun script =>
        .ofExcept (.ok (.mapping [("output", Hex.encode script)]))
    | .payment asset =>
      (Client.paymentRequest identity now asset order).andThen fun p => .ofExcept (paymentValue p)

/-! ## Reports -/

/-- How a command ends. -/
inductive Report.End where
  /-- The command line is not gone on with. -/
  | unread (code : Nat)
  | done (code : Nat)
  /-- An error that is passed on. -/
  | failed (e : Error)

/-- What a command came to. -/
structure Report where
  ending : Report.End
  output : Text := []
  errors : Text := []
  /-- Whether the log is to be detailed, once it was set up. -/
  verbose? : Option Value := none
  /-- The time limit and the name of the connection, once it was made. -/
  connection? : Option (Value × Value) := none
  sent : List Sent := []
  warnings : List Text := []

namespace Report

/-- The report of a command line that is not gone on with. -/
def ofStop : Arguments.Stop → Report
  | .misuse => { ending := .unread 2 }
  | .display t => { ending := .unread 0, output := t }

/-- The report of a result. -/
def ofResult : Except Error Value → Report
  | .error e =>
    if e.isOwn then { ending := .done 1, errors := "error: " ++ e.message ++ "\n" } else { ending := .failed e }
  | .ok v =>
    match Json.indented v with
    | .ok t => { ending := .done 0, output := t ++ "\n" }
    | .error what => { ending := .failed (.ofUnprintable what) }

end Report

/-- What a connection is made of: a time limit and the name under which it is used. -/
def connectionOf (setting : Text → Except Error Value) : Except Error (Value × Value) := do
  return (← setting "request_timeout", ← setting "user_agent")

/-- Carries out a command over a connection. `connect` makes a transport of a time limit and a name. -/
def carryOutOver (setting : Text → Except Error Value) (now : Moment) (connect : Value → Value → Transport)
    (connection : Value × Value) (c : Command) : Report :=
  let outcome := (c.call setting now).run (connect connection.1 connection.2)
  { Report.ofResult outcome.result with
    connection? := some connection, sent := outcome.sent, warnings := outcome.warnings }

/-- Carries out a command with loaded settings. -/
def carryOut (setting : Text → Except Error Value) (now : Moment) (connect : Value → Value → Transport) (c : Command) :
    Report :=
  match setting "verbose" with
  | .error e => .ofResult (.error e)
  | .ok verbose =>
    let report := match connectionOf setting with
      | .error e => Report.ofResult (.error e)
      | .ok connection => c.carryOutOver setting now connect connection
    { report with verbose? := some verbose }

/-- Runs a command line. -/
def run (around : Surroundings) (now : Moment) (connect : Value → Value → Transport) (line : List Text) : Report :=
  let fresh := Settings.standard around.toHost
  match read fresh.schema line with
  | .error stop => .ofStop stop
  | .ok c =>
    match fresh.perform (Settings.load around c.given) with
    | (.error e, _, warnings) => { Report.ofResult (.error e) with warnings }
    | (.ok _, settings, warnings) =>
      let report := c.carryOut (fun name => (settings.get? around.toHost name).getD (.ok .null)) now connect
      { report with warnings := warnings ++ report.warnings }

end Command

end Remit
