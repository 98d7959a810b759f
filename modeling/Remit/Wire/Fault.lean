import Remit.Value

/-!
# Faults of the wire format

Why bytes could not be read as a record.
-/

namespace Remit.Wire

/-- Why bytes could not be read. -/
inductive Fault where
  /-- More bytes are asked for than are left. -/
  | endOfData (wanted : Value) (available : Nat)
  /-- Bytes are left after the record. -/
  | trailing (count : Nat)
  | unsupportedProtocol (version : Value)
  | unsupportedTransaction (version : Value)
  /-- A reason given by a caller. -/
  | remark (reason : Value)

/-- The reason in words. -/
def Fault.message : Fault → Text
  | .endOfData wanted available =>
    "unexpected end of data, wanted " ++ wanted.shown ++ " bytes but only " ++ Text.ofNat available ++ " available"
  | .trailing count => Text.ofNat count ++ " unexpected trailing bytes"
  | .unsupportedProtocol version => "unsupported protocol version " ++ version.shown
  | .unsupportedTransaction version => "unsupported transaction version " ++ version.shown
  | .remark reason => reason.shown

/-- Can the reason be put in words? -/
def Fault.isShowable : Fault → Bool
  | .endOfData v _ | .unsupportedProtocol v | .unsupportedTransaction v | .remark v => v.isShowable
  | .trailing _ => true

end Remit.Wire
