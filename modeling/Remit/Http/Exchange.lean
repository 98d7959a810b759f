import Remit.Http.Address
import Remit.Json.Reader
import Remit.Payment.Call

/-!
# Exchanges

A request with a JSON body is posted to an address, and the reply is read as JSON. All that can be wrong with the
request is found before anything is sent. A reply that tells of a failure is an error, and an empty one is no value.
-/

namespace Remit.Http

/-- What every request of a connection has in common. -/
structure Connection where
  timeout : Value := .float (.ofRatio false 30 1)
  agent : Value := "bsvalias"

/-- A request. -/
structure Request where
  address : Address
  headers : List (Text × Text)
  body : Text

/-- A reply. -/
structure Reply where
  status : Nat
  reason : Text
  contentType : Text
  body : Bytes

/-! ## Requests -/

namespace Connection

/-- Requires a time limit that the clock can be set to. No limit is one, too. -/
def checkTimeout : Value → Except Error Unit
  | .null => .ok ()
  | .float x => if x.equals (.infinite false) then .error .infiniteTimeout else .ok ()
  | v =>
    match v.toInt? with
    | none => .error .wrongType
    | some i => if i ≤ 0 ∨ (Binary64.ofInt? i).isSome then .ok () else .error .floatOverflow

/-- The text of a header, which is in one line. -/
def headerText : Value → Except Error Text
  | .text t => if t.any (Text.isOneOf "\r\n") then .error .headerLineBreak else .ok (Text.trim (Text.isOneOf " \t") t)
  | _ => .error .wrongType

/-- The body of a request and what it is. -/
def content : Value → Except Error (Text × Text)
  | .null => .ok ([], "application/octet-stream")
  | v => do return (← (Json.line v).mapError .ofUnprintable, "application/json")

/-- The request that posts a value to an address. -/
def request (c : Connection) (url : Text) (v : Value) : Except Error Request := do
  let (body, contentType) ← content v
  match Address.parse? url with
  | none => .error (.invalidUrl url)
  | some address =>
    if !(address.scheme.isEmpty || Address.schemes.contains address.scheme) then .error (.foreignScheme address.text)
    else
      checkTimeout c.timeout
      if address.host.isEmpty then .error (.invalidUrl address.text)
      else
        let headers : List (Text × Text) :=
          [("host", address.authority), ("user-agent", ← headerText c.agent), ("accept", "application/json"),
           ("content-type", contentType), ("content-length", Text.ofNat body.length)]
        return { address, headers, body }

end Connection

/-- The first line of a request. -/
def Request.line (r : Request) : Text := "POST " ++ r.address.target ++ " HTTP/1.1"

/-! ## Replies -/

/-- The white space around the body of a reply. -/
def isBodyBlank (b : UInt8) : Bool := b == 0x20 || (0x09 ≤ b && b ≤ 0x0d)

/-- How the text of a reply is written. -/
inductive Charset where
  | utf8
  | ascii
  | latin1
deriving DecidableEq

namespace Charset

/-- The other names of the charsets, with low lines for all signs. -/
def asciiNames : List Text := ["ascii", "us_ascii", "646", "iso646_us", "iso_ir_6", "cp367", "us"]

/-- The names of the charset of the first 256 code points. -/
def latin1Names : List Text :=
  ["latin_1", "latin1", "latin", "l1", "iso_8859_1", "iso8859_1", "iso8859", "8859", "cp819", "iso_ir_100"]

/-- The charset under a name. Unknown names stand for UTF-8. -/
def named (name : Text) : Charset :=
  let plain := (Numeral.smallAscii name).map fun (c : CodePoint) =>
    if CodePoint.isAsciiLetter c || CodePoint.isAsciiDigit c || c = '.' then c else '_'
  if asciiNames.contains plain then .ascii else if latin1Names.contains plain then .latin1 else .utf8

/-- The value of the first parameter with a name. -/
def parameter? (name : Text) (contentType : Text) : Option Text :=
  ((Text.splitAll ';' contentType).tail.find? fun part =>
      Text.strip (Text.lower (Text.splitFirst '=' part).1) = name).map fun part =>
    Text.trim (Text.isOneOf " \"") ((Text.splitFirst '=' part).2.getD [])

/-- The charset that a content type tells of. -/
def ofContentType (contentType : Text) : Charset :=
  match parameter? "charset" contentType with
  | some name => named name
  | none => .utf8

/-- The text of bytes. -/
def decode (bytes : Bytes) : Charset → Except Error Text
  | .utf8 => (Utf8.decode bytes).mapError .decoding
  | .latin1 => .ok (bytes.map fun b => Fin.ofNat _ b.toNat)
  | .ascii =>
    match bytes.dropWhile (· < 0x80) with
    | [] => .ok (bytes.map fun b => Fin.ofNat _ b.toNat)
    | b :: rest => .error (.notInCharset "ascii" b (bytes.length - rest.length - 1))

end Charset

namespace Reply

/-- Statuses whose replies have no body. -/
def bodiless : List Nat := [204, 304]

/-- The value of a reply from an address. -/
def read (address : Address) (r : Reply) : Except Error Value :=
  if 400 ≤ r.status then .error (.badStatus r.status r.reason address.text)
  else
    let body := if bodiless.contains r.status then [] else r.body
    let body := ((body.dropWhile isBodyBlank).reverse.dropWhile isBodyBlank).reverse
    if body.isEmpty then .ok .null
    else do
      let text ← (Charset.ofContentType r.contentType).decode body
      (Json.read text).mapError .json

end Reply

/-! ## Both -/

namespace Connection

/-- Posts a value to a server; it may close the connection instead of replying. -/
def post (c : Connection) (server : Request → Option Reply) (url : Text) (v : Value) : Except Error Value := do
  let request ← c.request url v
  match server request with
  | none => .error .disconnected
  | some reply => reply.read request.address

/-- The body of a question as a value. -/
def bodyValue (body : List (Text × Value)) : Value := .mapping (body.map fun e => (.text e.1, e.2))

/-- The request that asks a question. -/
def requestOf (c : Connection) (question : Payment.Sent) : Except Error Request :=
  c.request question.url (bodyValue question.body)

/-- The transport of the questions of a payment. -/
def transport (c : Connection) (server : Request → Option Reply) : Payment.Transport := fun url body =>
  c.post server url (bodyValue body)

end Connection

end Remit.Http
