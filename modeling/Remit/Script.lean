import Remit.Error

/-!
# Scripts

Locking scripts: pushes of data, payment to the hash of a public key, and scripts that only carry data.
-/

namespace Remit.Script

/-- Pushes an empty item, which counts as false. -/
def opFalse : UInt8 := 0x00

/-- Copies the top of the stack. -/
def opDup : UInt8 := 0x76

/-- Hashes the top of the stack to 20 bytes. -/
def opHash160 : UInt8 := 0xa9

/-- Fails unless the two top items are equal. -/
def opEqualVerify : UInt8 := 0x88

/-- Checks a signature. -/
def opCheckSig : UInt8 := 0xac

/-- Ends a script that can never be spent. -/
def opReturn : UInt8 := 0x6a

/-- What is written in front of `size` bytes to push them: the size itself, or a mark and the size in one, two or four
bytes. -/
def pushMark (size : Nat) : Except Error Bytes :=
  if size < 0x4c then .ok [UInt8.ofNat size]
  else if size ≤ 0xff then .ok [0x4c, UInt8.ofNat size]
  else if size ≤ 0xffff then .ok (0x4d :: Bytes.ofNatLE 2 size)
  else if size ≤ 0xffffffff then .ok (0x4e :: Bytes.ofNatLE 4 size)
  else .error .pushTooLong

/-- The push of `data`. -/
def push (data : Bytes) : Except Error Bytes := (pushMark data.length).map (· ++ data)

/-- How long the hash of a public key is. -/
def pubkeyHashLength : Nat := 20

/-- The script that pays to the hash of a public key. -/
def payPubkeyHash (hash : Bytes) : Except Error Bytes :=
  if hash.length = pubkeyHashLength then do
    return [opDup, opHash160] ++ (← push hash) ++ [opEqualVerify, opCheckSig]
  else .error .pubkeyHashLength

/-- Does a script pay to the hash of a public key? -/
def isPayPubkeyHash (script : Bytes) : Bool :=
  script.length == 25 && script.take 3 == [opDup, opHash160, UInt8.ofNat pubkeyHashLength] &&
    script.drop 23 == [opEqualVerify, opCheckSig]

/-- The hash that a script pays to. -/
def pubkeyHash (script : Bytes) : Except Error Bytes :=
  if isPayPubkeyHash script then .ok ((script.drop 3).take pubkeyHashLength) else .error .notPayToPubkeyHash

/-- The script that pushes items and can never be spent. -/
def dataCarrier (items : List Bytes) : Except Error Bytes := do
  return [opFalse, opReturn] ++ (← items.mapM push).flatten

/-- Does a value that stands for a script pay to the hash of a public key? Only data with parts in a row can be asked. -/
def isPayPubkeyHashValue : Value → Except Error Bool
  | .bytes script => .ok (isPayPubkeyHash script)
  | .text _ | .list _ => .ok false
  | .mapping entries => if entries.length = 25 then .error .wrongType else .ok false
  | _ => .error .wrongType

end Remit.Script
