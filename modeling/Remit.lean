import Remit.Main
import Remit.Sample
import Remit.Transaction.Step
import Remit.Wire.Step
import Remit.Proofs.Wire.Reader
import Remit.Proofs.Wire.Form
import Remit.Proofs.Wire.Draft
import Remit.Proofs.Wire.Shortest
import Remit.Proofs.Wire.Cursor
import Remit.Proofs.Wire.RoundTrip
import Remit.Proofs.Transaction.Layout
import Remit.Proofs.Transaction.Reading
import Remit.Proofs.Transaction.Equality
import Remit.Proofs.Transaction.RoundTrip
import Remit.Proofs.Transaction.Canonical
import Remit.Proofs.Hex
import Remit.Proofs.Transaction.Distinct
import Remit.Proofs.Transaction.Key
import Remit.Proofs.Transaction.Snapshot
import Remit.Proofs.Check
import Remit.Proofs.Value.Keys
import Remit.Proofs.Payment.Response
import Remit.Proofs.Text.Decimal
import Remit.Proofs.Text.Utf8
import Remit.Proofs.Signing
import Remit.Proofs.Payment.Terms
import Remit.Proofs.Payment.Dispatch
import Remit.Proofs.Payment.Signed
import Remit.Proofs.Json.Scalars
import Remit.Proofs.Json.RoundTrip
import Remit.Proofs.Command
import Remit.Proofs.Arguments
import Remit.Proofs.Settings.Path
import Remit.Proofs.Settings.Content
import Remit.Proofs.Settings.Precedence
import Remit.Proofs.Settings.Conversion
import Remit.Proofs.Settings.Sources
import Remit.Proofs.Settings.Kinds
import Remit.Proofs.Settings.Faults
import Remit.Proofs.Settings.Program
import Remit.Proofs.Number.Radix
import Remit.Proofs.Bytes
import Remit.Proofs.Base58
import Remit.Proofs.Key.Import
import Remit.Proofs.Text.Join
import Remit.Proofs.Text.Replace
import Remit.Proofs.Text.Trim
import Remit.Proofs.Text.Case
import Remit.Proofs.Template
import Remit.Proofs.Transaction.Standalone
import Remit.Proofs.Payment.Destination
import Remit.Proofs.Signing.Envelope
import Remit.Proofs.Crypto.Signature
import Remit.Proofs.Signing.Verification
import Remit.Proofs.PrefixCode
import Remit.Proofs.Script
import Remit.Proofs.Text.Decoding
import Remit.Proofs.Key.Loading
import Remit.Proofs.Handle
import Remit.Proofs.Text.Padded
import Remit.Proofs.Calendar
import Remit.Proofs.Timestamp
import Remit.Proofs.Capabilities
import Remit.Proofs.Transaction.Locality
import Remit.Proofs.Wire.CompactSize
