import Remit.Http.Punycode
import Remit.Number.Numeral
import Remit.Text.Case
import Remit.Text.Utf8

/-!
# Addresses

The address of a service, in one of many spellings of it: the scheme and the host in small letters, every part with just
the percent escapes that it needs, and the path without dots.
-/

namespace Remit.Http

/-- An address. -/
structure Address where
  scheme : Text
  host : Text
  port? : Option Nat
  path : Text
  query : Text
  fragment : Text
deriving DecidableEq

namespace Address

/-! ## Percent escapes -/

/-- Which code points a part of an address holds as they are, which escapes it keeps although it could hold what they
stand for, and whether a space is written as a plus. -/
structure Escaping where
  safe : String
  guarded : String
  plusForSpace : Bool := false

namespace Escaping

/-- The escaping of a path. -/
def path : Escaping := ⟨"@:/+&=;", "/+", false⟩

/-- The escaping of a query. -/
def query : Escaping := ⟨"?/:@=+&;", "=+&;", true⟩

/-- The escaping of a fragment. -/
def fragment : Escaping := ⟨"?/:@+&=;", "", false⟩

/-- Does a part hold the code point as it is? -/
def isSafe (e : Escaping) (c : CodePoint) : Bool :=
  CodePoint.isAsciiLetter c || CodePoint.isAsciiDigit c || Text.isOneOf "-._~!$'()*," c || Text.isOneOf e.safe c

/-- A capital hexadecimal digit. -/
def hexDigit (d : Nat) : CodePoint := Fin.ofNat _ (if d < 10 then 0x30 + d else 0x41 + d - 10)

/-- The escape of a byte. -/
def escape (b : CodePoint) : Text := ['%', hexDigit (b.val / 16), hexDigit (b.val % 16)]

/-- The byte of an escape whose digits a text begins with. -/
def escaped? : Text → Option CodePoint
  | h :: l :: _ => do return Fin.ofNat _ (16 * (← CodePoint.hexDigit? h) + (← CodePoint.hexDigit? l))
  | _ => none

/-- Writes bytes, given as code points, with just the escapes that are needed. -/
def normalizeBytes (e : Escaping) : Text → Text
  | [] => []
  | b :: rest =>
    if b = '%' then
      match escaped? rest with
      | some c =>
        (if e.isSafe c && !Text.isOneOf e.guarded c then [c] else escape c) ++ normalizeBytes e (rest.drop 2)
      | none => escape b ++ normalizeBytes e rest
    else
      let written : Text := if b = ' ' && e.plusForSpace then "+" else if e.isSafe b then [b] else escape b
      written ++ normalizeBytes e rest
termination_by t => t.length
decreasing_by all_goals (simp only [List.length_cons, List.length_drop]; omega)

/-- A part with just the escapes that are needed. Surrogates are left out. -/
def normalize (e : Escaping) (t : Text) : Text :=
  e.normalizeBytes (((t.filter fun c => !CodePoint.isSurrogate c).flatMap Utf8.bytesOf).map fun b => Fin.ofNat _ b.toNat)

end Escaping

/-! ## Dots -/

/-- The segments that are left when one and two dots are followed, in reverse. -/
def followDots (segments : List Text) : List Text :=
  segments.foldl (fun done (s : Text) => if s = ".." then done.tail else if s = "." then done else s :: done) []

/-- The path without dots. -/
def withoutDots (path : Text) : Text :=
  let (root, rest) : Text × Text := match path with
    | c :: rest => if c = '/' then ([c], rest) else ([], path)
    | [] => ([], [])
  let segments := Text.splitAll '/' rest
  let done := followDots segments
  let done := if segments.getLast?.any fun (s : Text) => s = "." ∨ s = ".." then [] :: done else done
  root ++ Text.joinWith "/" done.reverse

/-! ## Reading -/

/-- May the code point be part of a scheme? -/
def isSchemePart (c : CodePoint) : Bool :=
  CodePoint.isAsciiLetter c || CodePoint.isAsciiDigit c || Text.isOneOf "+-." c

/-- The scheme in front of an address, and the rest. -/
def splitScheme (t : Text) : Text × Text :=
  match Text.splitFirst ':' t with
  | (front, some rest) =>
    if front.head?.any CodePoint.isAsciiLetter && front.all isSchemePart then (Numeral.smallAscii front, rest) else ([], t)
  | _ => ([], t)

/-- The part of an address that names the host, and the rest. -/
def splitAuthority (t : Text) : Text × Text :=
  if t.take 2 = "//" then (t.drop 2).span fun c => !Text.isOneOf "/?#" c else ([], t)

/-- The name of a host and the number of a port, which is at most 65535. -/
def hostAndPort? (authority : Text) : Option (Text × Option Nat) := do
  let t := match (Text.splitAll '@' authority).getLast? with
    | some t => t
    | none => []
  let (host, port) ← match t with
    | c :: rest =>
      if c = '[' then do
        let (host, after) := Text.splitFirst ']' rest
        guard (host.contains ':')
        some ("[" ++ host ++ "]", (Text.splitFirst ':' (← after)).2.getD [])
      else some ((Text.splitFirst ':' t).1, (Text.splitFirst ':' t).2.getD [])
    | [] => some ([], [])
  let port? ← if port.isEmpty then some none
    else match Numeral.int? port with
      | some (.ofNat n) => if n ≤ 65535 then some (some n) else none
      | _ => none
  return (Punycode.host (Text.lower host), port?)

/-- The schemes of addresses that name a host. -/
def schemes : List Text := ["http", "https"]

/-- The address that a text spells. -/
def parse? (t : Text) : Option Address := do
  let t := (Text.dropStart (fun c => c.val ≤ 0x20) t).filter fun c => !Text.isOneOf "\t\r\n" c
  let (scheme, rest) := splitScheme t
  let (authority, rest) := splitAuthority rest
  let (rest, fragment) := Text.splitFirst '#' rest
  let (path, query) := Text.splitFirst '?' rest
  let (host, port?) ← hostAndPort? authority
  guard (authority.isEmpty || !host.isEmpty || !schemes.contains scheme)
  let path := Escaping.path.normalize path
  return { scheme, host, port?,
           path := if authority.isEmpty then path else withoutDots path,
           query := Escaping.query.normalize (query.getD []),
           fragment := Escaping.fragment.normalize (fragment.getD []) }

/-! ## Writing -/

/-- The port that a scheme stands for. -/
def defaultPort? (scheme : Text) : Option Nat :=
  if scheme = "http" then some 80 else if scheme = "https" then some 443 else none

/-- The port, unless it is the one that the scheme stands for. -/
def otherPort? (a : Address) : Option Nat := if a.port? = defaultPort? a.scheme then none else a.port?

/-- A host with its port. -/
def withPort (host : Text) : Option Nat → Text
  | none => host
  | some n => host ++ ":" ++ Text.ofNat n

/-- The host and the port, as a request names them. -/
def authority (a : Address) : Text := withPort (Text.dropEnd (fun (c : CodePoint) => c = '.') a.host) a.otherPort?

/-- A query behind its mark, if there is one. -/
def marked (mark : Char) (t : Text) : Text := if t.isEmpty then [] else CodePoint.ofChar mark :: t

/-- What is asked of the host: the path and the query. -/
def target (a : Address) : Text :=
  let path : Text := if a.path.isEmpty then "/" else a.path
  path ++ marked '?' a.query

/-- The address in words. -/
def text (a : Address) : Text :=
  let scheme : Text := if a.scheme.isEmpty then [] else a.scheme ++ ":"
  let front : Text :=
    if a.host.isEmpty && !schemes.contains a.scheme then scheme else scheme ++ "//" ++ withPort a.host a.otherPort?
  let path : Text :=
    if a.path.isEmpty && !a.host.isEmpty && !(a.query.isEmpty && a.fragment.isEmpty) then "/" else a.path
  front ++ path ++ marked '?' a.query ++ marked '#' a.fragment

end Address

end Remit.Http
