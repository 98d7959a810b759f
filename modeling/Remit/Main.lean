import Std.Async.DNS
import Std.Async.TCP
import Std.Async.Timer
import Remit.Command
import Remit.Http.Wire
import Remit.Settings.Users
import Remit.Yaml.Reader

/-!
# The program

Runs a command line: gathers what lies around the process, carries the questions of the command to the service, and
prints the report. Connections are not encrypted.
-/

namespace Remit.Program

open Std.Async

/-! ## Around the process -/

/-- The variable that an entry of the environment sets. -/
def entryOf? (entry : Text) : Option (Text × Text) :=
  match Text.splitFirst '=' entry with
  | (name, some v) => some (name, v)
  | _ => none

/-- The variables that are asked for by name, where they cannot be listed. -/
def knownNames : List Text :=
  let settings := Settings.standardSchema (.ofUsers [] [] "")
  "HOME" :: "XDG_CONFIG_HOME" :: settings.map Setting.environmentName

/-- The variables of the process. -/
def environment : IO Environment := do
  try
    let bytes ← IO.FS.readBinFile "/proc/self/environ"
    let text := ((Utf8.decode bytes.toList).toOption).getD []
    return (Text.splitAll '\x00' text).filterMap entryOf?
  catch _ =>
    knownNames.filterMapM fun name => do
      return (← IO.getEnv (Text.toString name)).map fun v => (name, Text.ofString v)

/-- A file of the system as text, or no text if it cannot be read. -/
def systemText (path : String) : IO Text := do
  let .ok bytes ← (IO.FS.readBinFile path).toBaseIO | return []
  return (Utf8.decode bytes.toList).toOption.getD []

/-- The number of the user who runs the process. -/
def ownNumber : IO Text := do
  let label : Text := "Uid:\t"
  let line? := (Text.splitAll '\n' (← systemText "/proc/self/status")).find? label.isPrefixOf
  return ((line?.getD []).drop label.length).takeWhile CodePoint.isAsciiDigit

/-- The host of the process. -/
def host : IO Host := do
  let users := (Text.splitAll '\n' (← systemText "/etc/passwd")).filterMap User.ofLine?
  return .ofUsers (← environment) users (← ownNumber)

/-- What is found at a path. -/
def fileAt (path : Text) : IO File := do
  try
    let bytes ← IO.FS.readBinFile (Text.toString path)
    return .content bytes.toList
  catch
    | .noFileOrDirectory .. => return .missing
    | _ => return .directory

/-- The moment that it is now. -/
def now : IO Moment := do
  let seconds := (← Std.Time.Timestamp.now).toSecondsSinceUnixEpoch.val.toNat
  let days := (Date.mk 1970 1 1).toDays + seconds / 86400
  let time := seconds % 86400
  return ⟨Date.ofDays days, time / 3600, time / 60 % 60, time % 60, 0, some 0⟩

/-! ## Connections -/

/-- A failure of a connection. -/
def failure (reason : String) : Error := .mishap ⟨.system, "connection", [reason]⟩

/-- All that arrives until the other side closes the connection. -/
partial def receive (socket : TCP.Socket.Client) (done : ByteArray) : Async ByteArray := do
  match ← socket.recv? 65536 with
  | some bytes => receive socket (done ++ bytes)
  | none => return done

/-- Sends a request to a host and receives the reply. -/
def converse (host : String) (port : Nat) (request : Bytes) : Async (Except Error Bytes) := do
  match (← DNS.getAddrInfo host (toString port))[0]? with
  | none => return .error (failure "no such host")
  | some ip =>
    let port := UInt16.ofNat port
    let address : Std.Net.SocketAddress := match ip with
      | .v4 ip => .v4 ⟨ip, port⟩
      | .v6 ip => .v6 ⟨ip, port⟩
    let socket ← TCP.Socket.Client.mk
    socket.connect address
    socket.send ⟨request.toArray⟩
    let reply ← receive socket ByteArray.empty
    return .ok reply.toList

/-- The milliseconds of a time limit. -/
def milliseconds? : Value → Option Nat
  | .float (.finite false m e) => some (if e < 0 then 1000 * m / 2 ^ e.natAbs else 1000 * m * 2 ^ e.natAbs)
  | _ => none

/-- Does something within a time limit, if there is one. -/
def within (limit : Value) (action : Async (Except Error Bytes)) : Async (Except Error Bytes) :=
  match milliseconds? limit with
  | none => action
  | some ms =>
    let late : Async (Except Error Bytes) := do
      sleep (Std.Time.Millisecond.Offset.ofNat ms)
      return .error (failure "timeout")
    let _ : Inhabited (Except Error Bytes) := ⟨.ok []⟩
    Async.race action late

/-- The answer to a question. -/
def answer (c : Http.Connection) (question : Payment.Sent) : IO (Except Error Value) := do
  match c.requestOf question with
  | .error e => return .error e
  | .ok request =>
    let address := request.address
    if address.scheme = "https" then return .error (failure "encryption is not supported")
    else
      try
        let exchange := converse (Text.toString address.host) (address.port?.getD 80) request.bytes
        match ← (within c.timeout exchange).block with
        | .error e => return .error e
        | .ok bytes =>
          match Http.Reply.ofBytes? bytes with
          | none => return .error .disconnected
          | some reply => return reply.read address
      catch e => return .error (failure (toString e))

/-- Carries the questions of a call to the service. -/
def run (c : Http.Connection) : Payment.Call Value → IO (Except Error Value × List Text)
  | .done result warnings => return (result, warnings)
  | .ask question next => do
    let reply ← answer c question
    run c (next reply)

/-! ## Commands -/

/-- Prints a report; the result is the exit code. -/
def print (report : Command.Report) : IO UInt32 := do
  for warning in report.warnings do
    IO.eprintln ("WARNING " ++ Text.toString warning)
  IO.print (Text.toString report.output)
  IO.eprint (Text.toString report.errors)
  match report.ending with
  | .unread code =>
    if code ≠ 0 then IO.eprint (Text.toString Command.usage)
    return UInt32.ofNat code
  | .done code => return UInt32.ofNat code
  | .failed e =>
    IO.eprintln (Text.toString e.message)
    return 1

/-- Runs a command with the settings that it finds. -/
def carryOut (host : Host) (fresh : Settings) (c : Command) : IO Command.Report := do
  let (result, early, _) := fresh.perform (do Settings.setArguments c.given; Settings.setEnvironment host.environment)
  let file ← match result, early.configPath host with
    | .ok _, .ok (.text path) => fileAt path
    | _, _ => pure .missing
  let around : Surroundings := { toHost := host, file := fun _ => file, readDocument := Yaml.reader }
  match fresh.perform (Settings.load around c.given) with
  | (.error e, _, warnings) => return { Command.Report.ofResult (.error e) with warnings }
  | (.ok _, settings, warnings) =>
    let setting (name : Text) : Except Error Value := (settings.get? host name).getD (.ok .null)
    match Command.connectionOf setting with
    | .error e => return { Command.Report.ofResult (.error e) with warnings }
    | .ok (timeout, agent) =>
      let (result, others) ← run ⟨timeout, agent⟩ (c.call setting (← now))
      return { Command.Report.ofResult result with warnings := warnings ++ others }

end Remit.Program

open Remit in
/-- Runs the program. -/
def main (line : List String) : IO UInt32 := do
  let host ← Program.host
  let fresh := Settings.standard host
  match Command.read fresh.schema (line.map Text.ofString) with
  | .error stop => Program.print (.ofStop stop)
  | .ok c => Program.print (← Program.carryOut host fresh c)
