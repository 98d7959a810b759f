import Remit.Hex
import Remit.Json.Fault
import Remit.Json.Printer
import Remit.Text.Utf8
import Remit.Wire.Fault

/-!
# Errors

Every cause of failure, the words for it, the details a caller can read from it, and the hierarchy of the library's own
kinds of error. Failures that come from outside, from a transport or from a key kept elsewhere, are carried as mishaps.
-/

namespace Remit

/-! ## Mishaps -/

namespace Mishap

/-- What a failure from outside is about. Only a cancelled task is no ordinary failure. -/
inductive Category where
  | invalidValue
  | wrongType
  | missingKey
  | system
  | cancelled
  | other
deriving DecidableEq

end Mishap

/-- A failure from outside: what it is about, its name there, and what was said of it. -/
structure Mishap where
  category : Mishap.Category
  name : Text
  arguments : List Value

namespace Mishap

/-- Several values in parentheses; a single one keeps its comma. -/
def tuple : List Value → Text
  | [v] => "(" ++ v.quoted ++ ",)"
  | vs => "(" ++ Text.joinWith ", " (vs.map Value.quoted) ++ ")"

/-- What is said of a failure: its one argument, or all of them. A missing key is quoted, and a system failure of two or
three arguments shows its number and the file. -/
def message (m : Mishap) : Text :=
  match m.category, m.arguments with
  | _, [] => []
  | .missingKey, [key] => key.quoted
  | _, [v] => v.shown
  | .system, [number, reason] => "[Errno " ++ number.shown ++ "] " ++ reason.shown
  | .system, [number, reason, file] => "[Errno " ++ number.shown ++ "] " ++ reason.shown ++ ": " ++ file.quoted
  | _, vs => tuple vs

/-- Can the failure be put in words? -/
def isShowable (m : Mishap) : Bool := Value.areShowable m.arguments

end Mishap

/-! ## Kinds -/

/-- The library's own kinds of error. -/
inductive Kind where
  | base
  | userInput
  | inputValue
  | invalidAmount
  | missingSenderHandle
  | invalidHandle
  | invalidPrivateKey
  | configuration
  | configRead
  | configFormat
  | invalidSetting
  | serialization
  | paymentProtocol
  | notCapable
  | signing
  | transport
  | format
  | missingResponseField
  | unexpectedResponseField
  | emptyResult
  | emptyLockingScript
deriving DecidableEq, Repr

namespace Kind

/-- All kinds. -/
def all : List Kind :=
  [.base, .userInput, .inputValue, .invalidAmount, .missingSenderHandle, .invalidHandle, .invalidPrivateKey,
   .configuration, .configRead, .configFormat, .invalidSetting, .serialization, .paymentProtocol, .notCapable,
   .signing, .transport, .format, .missingResponseField, .unexpectedResponseField, .emptyResult, .emptyLockingScript]

/-- The kind that this one is a special case of. -/
def parent? : Kind → Option Kind
  | .base => none
  | .userInput | .configuration | .serialization | .paymentProtocol => some .base
  | .inputValue => some .userInput
  | .invalidAmount | .missingSenderHandle | .invalidHandle | .invalidPrivateKey => some .inputValue
  | .configRead | .configFormat | .invalidSetting => some .configuration
  | .notCapable | .signing | .transport | .format | .emptyResult => some .paymentProtocol
  | .missingResponseField | .unexpectedResponseField => some .format
  | .emptyLockingScript => some .emptyResult

/-- A kind and all the kinds it is a special case of, at most `fuel` steps up. -/
def ancestry : (fuel : Nat) → Kind → List Kind
  | 0, kind => [kind]
  | fuel + 1, kind =>
    match kind.parent? with
    | none => [kind]
    | some parent => kind :: ancestry fuel parent

/-- A kind and all the kinds it is a special case of; no chain is longer than four. -/
def lineage (kind : Kind) : List Kind := ancestry 4 kind

/-- Is every error of this kind also an error of the other? -/
def isA (kind other : Kind) : Bool := kind.lineage.contains other

/-- Does the kind say that a given value is invalid? -/
def isInvalidValue (kind : Kind) : Bool := kind.isA .inputValue

end Kind

/-! ## Causes -/

/-- Why something failed. -/
inductive Error where
  -- Input
  | invalidAmount (amount : Value)
  | missingSenderHandle
  | invalidHandle (handle : Value)
  | invalidPrivateKey (reason : Error)
  -- Settings
  | configRead (path : Value)
  | configFormat (path : Value) (reason : Error)
  | invalidSetting (name value : Value)
  -- Wire format
  | serialization (fault : Wire.Fault)
  -- Exchange with a service
  | notCapable (capability : Value)
  | signing (stage : Value) (reason : Error)
  | transport (url : Value) (reason : Error)
  | format (stage : Value) (reason : Error) (position : Value)
  | missingField (field : Value)
  | unexpectedFields (fields : Value)
  | emptyLockingScript
  /-- An error of a kind without words of its own. -/
  | general (kind : Kind) (arguments : List Value)
  -- Reasons
  /-- A reason given by a caller. -/
  | remark (reason : Value)
  | notAnObject (kind : Text)
  | privateKeyNotBytes
  | privateKeyLength
  | privateKeyNotHex
  | secretOutOfRange (order : Nat)
  | unknownVersionByte
  | notAMapping
  | unsupportedExtension (extension : Value)
  -- Codecs
  | hex (fault : Hex.Fault)
  | encoding (fault : Utf8.EncodeFault)
  | decoding (fault : Utf8.DecodeFault)
  | notInCharset (charset : Text) (byte : UInt8) (position : Nat)
  | json (fault : Json.Fault)
  | notPrintable (what : Json.Unprintable)
  | base58Empty
  | base58Character (c : CodePoint)
  | base58Checksum (shown : Text)
  -- Scripts and keys
  | pubkeyHashLength
  | notPayToPubkeyHash
  | publicKeyNotBytes
  | publicKeyLength
  | publicKeyHeader
  | publicKeyNotOnCurve
  | digestLength
  | noNonce
  | unknownNetwork
  -- Values
  /-- A number does not fit its field. -/
  | misfit
  /-- A value of a kind that cannot be used here. -/
  | wrongType
  | textRequired
  /-- A value lacks what is asked of it. -/
  | noSuchAttribute
  | notImplemented
  | pushTooLong
  | timeOutOfRange
  | floatOverflow
  | indexOverflow
  | infiniteTimeout
  /-- A whole number with too many digits to be shown. -/
  | tooLongToShow
  /-- A name for the system holds a code point that ends names there. -/
  | embeddedNull
  | settingKind (name : Text) (wanted : Text)
  -- HTTP
  | badStatus (status : Nat) (reason url : Text)
  | disconnected
  | invalidUrl (url : Text)
  | foreignScheme (url : Text)
  | headerLineBreak
  /-- A failure from outside. -/
  | mishap (m : Mishap)

namespace Error

/-- The library's kind of an error; `none` for failures of codecs, values and the outside. -/
def kind? : Error → Option Kind
  | .invalidAmount _ => some .invalidAmount
  | .missingSenderHandle => some .missingSenderHandle
  | .invalidHandle _ => some .invalidHandle
  | .invalidPrivateKey _ => some .invalidPrivateKey
  | .configRead _ => some .configRead
  | .configFormat .. => some .configFormat
  | .invalidSetting .. => some .invalidSetting
  | .serialization _ => some .serialization
  | .notCapable _ => some .notCapable
  | .signing .. => some .signing
  | .transport .. => some .transport
  | .format .. => some .format
  | .missingField _ => some .missingResponseField
  | .unexpectedFields _ => some .unexpectedResponseField
  | .emptyLockingScript => some .emptyLockingScript
  | .general kind _ => some kind
  | _ => none

/-- Is it an error of one of the library's kinds? -/
def isA (e : Error) (kind : Kind) : Bool := (e.kind?.map fun k => k.isA kind).getD false

/-- Is it an error of any of the library's kinds? -/
def isOwn (e : Error) : Bool := e.kind?.isSome

/-- Does the error say that a value is invalid? Faults of codecs and of numbers do. -/
def isInvalidValue : Error → Bool
  | .hex _ | .encoding _ | .decoding _ | .notInCharset .. | .json _ | .pubkeyHashLength | .notPayToPubkeyHash
  | .publicKeyLength | .publicKeyHeader | .publicKeyNotOnCurve | .digestLength | .noNonce | .secretOutOfRange _
  | .tooLongToShow | .embeddedNull | .headerLineBreak | .invalidUrl _ | .foreignScheme _ => true
  | .mishap m => m.category == .invalidValue
  | e => (e.kind?.map Kind.isInvalidValue).getD false

/-- Does the error say that a value is of a kind that cannot be used? -/
def isWrongType : Error → Bool
  | .wrongType | .textRequired | .publicKeyNotBytes | .notPrintable _ => true
  | .mishap m => m.category == .wrongType
  | _ => false

/-- The items that a value is taken apart into, if it has parts. -/
def parts? : Value → Option (List Value)
  | .list items => some items
  | .mapping entries => some (entries.map (·.1))
  | .text t => some (t.map fun c => .text [c])
  | .bytes b => some (b.map fun x => .int x.toNat)
  | _ => none

/-- The error in words. -/
def message : Error → Text
  | .invalidAmount amount => "Amount must be an unsigned 64-bit integer, got '" ++ amount.shown ++ "'."
  | .missingSenderHandle => "Sender handle is required."
  | .invalidHandle handle => "Invalid handle: '" ++ handle.shown ++ "'"
  | .invalidPrivateKey reason => "Invalid private key: " ++ reason.message
  | .configRead path => "Cannot open configuration file '" ++ path.shown ++ "'"
  | .configFormat path reason => "Invalid configuration file '" ++ path.shown ++ "': " ++ reason.message
  | .invalidSetting name value => "Invalid value for setting '" ++ name.shown ++ "': '" ++ value.shown ++ "'"
  | .serialization fault => "Serialization failed: " ++ fault.message
  | .notCapable capability => "Identity is not capable of '" ++ capability.shown ++ "'."
  | .signing stage reason => stage.shown ++ ": " ++ reason.message
  | .transport url reason => "http get " ++ url.shown ++ ": " ++ reason.message
  | .format stage reason .null => stage.shown ++ ": " ++ reason.message
  | .format stage reason position => stage.shown ++ " " ++ position.shown ++ ": " ++ reason.message
  | .missingField field => "response: missing or invalid field '" ++ field.shown ++ "'"
  | .unexpectedFields fields =>
    "response: unexpected field(s) " ++ Text.joinWith ", " (((parts? fields).getD []).map Value.quoted)
  | .emptyLockingScript => "Empty locking script"
  | .general _ arguments => Mishap.message ⟨.other, [], arguments⟩
  | .remark reason => reason.shown
  | .notAnObject kind => "expected a JSON object, got " ++ kind
  | .privateKeyNotBytes => "private key must be raw bytes"
  | .privateKeyLength => "private key must be 32 bytes"
  | .privateKeyNotHex => "private key is not valid hex"
  | .secretOutOfRange order => "Secret scalar must be greater than 0 and less than " ++ Text.ofNat order ++ "."
  | .unknownVersionByte => "unknown WIF version byte"
  | .notAMapping => "expected a mapping of setting names to values"
  | .unsupportedExtension extension =>
    "extension '" ++ extension.shown ++ "' is not supported, configuration file must be in YAML (.yaml)"
  | .hex fault => fault.message
  | .encoding fault => fault.message
  | .decoding fault => fault.message
  | .notInCharset charset byte position =>
    "'" ++ charset ++ "' codec can't decode byte 0x" ++ Text.hexPadded 2 byte.toNat ++ " in position " ++
      Text.ofNat position ++ ": ordinal not in range(128)"
  | .json fault => fault.message
  | .notPrintable what => what.message
  | .base58Empty => "string cannot be empty"
  | .base58Character c => "invalid base 58 character \"" ++ ([c] : Text) ++ "\""
  | .base58Checksum shown => "invalid base 58 checksum for " ++ shown
  | .pubkeyHashLength => "public key hash must be 20 bytes"
  | .notPayToPubkeyHash => "not a pay to public key hash script"
  | .publicKeyNotBytes => "pubkey must be raw bytes"
  | .publicKeyLength => "pubkey must be 33 bytes"
  | .publicKeyHeader => "invalid pubkey prefix byte"
  | .publicKeyNotOnCurve => "The public key could not be parsed or is invalid."
  | .digestLength => "digest must be 32 bytes"
  | .noNonce => "The nonce generation function failed, or the private key was invalid."
  | .unknownNetwork => ""
  | .misfit => ""
  | .wrongType => ""
  | .textRequired => "a string is required"
  | .noSuchAttribute => ""
  | .notImplemented => ""
  | .pushTooLong => "int too big to convert"
  | .timeOutOfRange => "date value out of range"
  | .floatOverflow => "int too large to convert to float"
  | .indexOverflow => "cannot fit 'int' into an index-sized integer"
  | .infiniteTimeout => "cannot convert float infinity to integer"
  | .tooLongToShow => Json.Unprintable.number.message
  | .embeddedNull => "embedded null byte"
  | .settingKind name wanted => "Setting '" ++ name ++ "' must be a " ++ wanted ++ "."
  | .badStatus status reason url =>
    Text.ofNat status ++ ", message=" ++ Text.quoted reason ++ ", url=" ++ Text.quoted url
  | .disconnected => "Server disconnected"
  | .invalidUrl url | .foreignScheme url => url
  | .headerLineBreak => "Newline or carriage return detected in headers. Potential header injection attack."
  | .mishap m => m.message

/-- Can the error be put in words? It cannot if these would show a value that cannot be shown. -/
def isShowable : Error → Bool
  | .invalidAmount v | .invalidHandle v | .configRead v | .notCapable v | .missingField v | .remark v
  | .unsupportedExtension v => v.isShowable
  | .unexpectedFields fields => ((parts? fields).getD []).all Value.isShowable
  | .invalidSetting name v => name.isShowable && v.isShowable
  | .invalidPrivateKey reason => reason.isShowable
  | .configFormat v reason | .signing v reason | .transport v reason => v.isShowable && reason.isShowable
  | .format stage reason position => stage.isShowable && reason.isShowable && position.isShowable
  | .serialization fault => fault.isShowable
  | .general _ arguments => Value.areShowable arguments
  | .mishap m => m.isShowable
  | _ => true

/-- The error as it is raised. What has words of its own is put in words at once, and where that cannot be done this is
raised instead. -/
def raised : Error → Error
  | .general kind arguments => .general kind arguments
  | .mishap m => .mishap m
  | e => if e.isShowable then e else .tooLongToShow

theorem raised_eq_self {e : Error} (h : e.isShowable = true) : e.raised = e := by
  rw [raised.eq_def]
  split
  case h_1 | h_2 => rfl
  case h_3 => exact if_pos h

/-- The error that data cannot be printed. -/
def ofUnprintable : Json.Unprintable → Error
  | .number => .tooLongToShow
  | what => .notPrintable what

/-- What a caller can read from an error of one of the library's kinds, under the names it has there. -/
def details : Error → List (Text × Value)
  | .invalidAmount amount => [("amount", amount)]
  | .invalidHandle handle => [("handle", handle)]
  | .configRead path => [("path", path)]
  | .configFormat path _ => [("path", path)]
  | .invalidSetting name value => [("name", name), ("value", value)]
  | .notCapable capability => [("capability", capability)]
  | .signing stage _ => [("stage", stage)]
  | .transport url _ => [("stage", "http get"), ("url", url)]
  | .format stage _ position => [("stage", stage), ("position", position)]
  | .missingField field => [("stage", "response"), ("position", .null), ("field", field)]
  | .unexpectedFields fields => [("stage", "response"), ("position", .null), ("fields", fields)]
  | _ => []

/-- The error of a kind with the given arguments, if that kind takes so many of them. -/
def ofArguments? (kind : Kind) (arguments : List Value) : Option Error :=
  let e? : Option Error := match kind, arguments with
    | .invalidAmount, [amount] => some (.invalidAmount amount)
    | .missingSenderHandle, [] => some .missingSenderHandle
    | .invalidHandle, [handle] => some (.invalidHandle handle)
    | .invalidPrivateKey, [reason] => some (.invalidPrivateKey (.remark reason))
    | .configRead, [path] => some (.configRead path)
    | .configFormat, [path, reason] => some (.configFormat path (.remark reason))
    | .invalidSetting, [name, value] => some (.invalidSetting name value)
    | .serialization, [reason] => some (.serialization (.remark reason))
    | .notCapable, [capability] => some (.notCapable capability)
    | .signing, [stage, reason] => some (.signing stage (.remark reason))
    | .transport, [url, reason] => some (.transport url (.remark reason))
    | .format, [stage, reason] => some (.format stage (.remark reason) .null)
    | .format, [stage, reason, position] => some (.format stage (.remark reason) position)
    | .missingResponseField, [field] => some (.missingField field)
    | .unexpectedResponseField, [fields] => (parts? fields).map fun _ => .unexpectedFields fields
    | .emptyLockingScript, [] => some .emptyLockingScript
    | .base, vs => some (.general .base vs)
    | .userInput, vs => some (.general .userInput vs)
    | .inputValue, vs => some (.general .inputValue vs)
    | .configuration, vs => some (.general .configuration vs)
    | .paymentProtocol, vs => some (.general .paymentProtocol vs)
    | .emptyResult, vs => some (.general .emptyResult vs)
    | _, _ => none
  e?.map raised

end Error

/-- The value in words. -/
def Value.inWords (v : Value) : Except Error Text := if v.isShowable then .ok v.shown else .error .tooLongToShow

end Remit
