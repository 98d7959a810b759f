import Remit.Http.Exchange

/-!
# Requests and replies on the wire

A request is written so that the server closes the connection behind its reply. A reply is a line with its status,
headers, and a body that is cut into chunks, has a length, or goes on to the end.
-/

namespace Remit.Http

/-- The end of a line. -/
def lineEnd : Text := "\r\n"

/-- The bytes of a request. -/
def Request.bytes (r : Request) : Bytes :=
  let last : List (Text × Text) := [("connection", "close")]
  let headers := (r.headers ++ last).map fun (h : Text × Text) => h.1 ++ Text.ofString ": " ++ h.2
  (Text.joinWith lineEnd (r.line :: headers) ++ lineEnd ++ lineEnd ++ r.body).flatMap Utf8.bytesOf

namespace Reply

/-- The first line of bytes and what follows it. A line that does not end is none. -/
def splitLine? : Bytes → Option (Bytes × Bytes)
  | [] => none
  | b :: rest =>
    if b == 0x0d && rest.head? == some 0x0a then some ([], rest.tail)
    else (splitLine? rest).map fun (line, others) => (b :: line, others)

/-- Bytes as code points of the same number. -/
def toText (bytes : Bytes) : Text := bytes.map fun b => Fin.ofNat _ b.toNat

/-- The header that a line holds: its name in small letters, and its value. -/
def header (line : Bytes) : Text × Text :=
  let (name, value) := Text.splitFirst ':' (toText line)
  (Numeral.smallAscii name, Text.strip (value.getD []))

/-- The headers up to an empty line, and what follows it. There are at most as many lines as `fuel`. -/
def headers? : (fuel : Nat) → Bytes → Option (List (Text × Text) × Bytes)
  | 0, _ => none
  | fuel + 1, bytes => do
    let (line, rest) ← splitLine? bytes
    if line.isEmpty then return ([], rest)
    else
      let (others, body) ← headers? fuel rest
      return (header line :: others, body)

/-- The number that hexadecimal digits at the start of a text spell. -/
def hexNumber? (t : Text) : Option Nat :=
  let digits := t.takeWhile fun c => (CodePoint.hexDigit? c).isSome
  if digits.isEmpty then none else some (digits.foldl (fun n c => 16 * n + (CodePoint.hexDigit? c).getD 0) 0)

/-- The bytes of chunks, each behind a line with its size; the last one is empty. -/
def unchunk? : (fuel : Nat) → Bytes → Option Bytes
  | 0, _ => none
  | fuel + 1, bytes => do
    let (line, rest) ← splitLine? bytes
    let size ← hexNumber? (toText line)
    if size = 0 then return []
    else
      guard (size ≤ rest.length)
      return rest.take size ++ (← unchunk? fuel (rest.drop (size + 2)))

/-- The body among the bytes behind the headers. -/
def body? (headers : List (Text × Text)) (bytes : Bytes) : Option Bytes :=
  let value? (name : Text) := (headers.find? fun h => h.1 == name).map (·.2)
  if (value? "transfer-encoding").map Numeral.smallAscii = some (Text.ofString "chunked") then
    unchunk? (bytes.length + 1) bytes
  else match (value? "content-length").bind Numeral.int? with
    | some (.ofNat n) => if n ≤ bytes.length then some (bytes.take n) else none
    | _ => some bytes

/-- The reply that bytes hold. -/
def ofBytes? (bytes : Bytes) : Option Reply := do
  let (line, rest) ← splitLine? bytes
  let (headers, rest) ← headers? (rest.length + 1) rest
  let (_, after) := Text.splitFirst ' ' (toText line)
  let (status, reason) := Text.splitFirst ' ' (← after)
  match Numeral.int? status with
  | some (.ofNat status) =>
    let contentType := (headers.find? fun h => h.1 == Text.ofString "content-type").map (·.2)
    return ⟨status, Text.strip (reason.getD []), contentType.getD [], ← body? headers rest⟩
  | _ => none

end Reply

end Remit.Http
