import RepeatScan.Hash.Blake3
import RepeatScan.Text.Hex
import RepeatScan.Text.Literal

set_option autoImplicit false

/-! Fingerprints are words of 128 bits, written as 32 hexadecimal digits in small letters. Reading
takes capital letters too, but neither more nor fewer digits. -/

namespace RepeatScan

/-- The fingerprint of a window of tokens. -/
structure Fingerprint where
  word : BitVec 128
  deriving DecidableEq, Repr

/-- A text that is no fingerprint. -/
structure MalformedFingerprint where
  text : Text
  deriving DecidableEq, Repr

def MalformedFingerprint.message (malformed : MalformedFingerprint) : Text :=
  "invalid fingerprint ".toList ++ Text.literal malformed.text ++ ": expected 32 hex digits".toList

namespace Fingerprint

def width : Nat := 32

def display (fingerprint : Fingerprint) : Text :=
  Text.hexDigits width fingerprint.word.toNat

def ofText (text : Text) : Except MalformedFingerprint Fingerprint :=
  match text.mapM Text.hexValue? with
  | some digits =>
      if digits.length = width then
        .ok ⟨BitVec.ofNat 128 (Text.ofDigits 16 digits)⟩
      else .error ⟨text⟩
  | none => .error ⟨text⟩

def precedes (left right : Fingerprint) : Bool :=
  left.word.toNat ≤ right.word.toNat

def littleBytes : Nat → Nat → List UInt8
  | 0, _ => []
  | count + 1, number => number.toUInt8 :: littleBytes count (number / 256)

/-- The label of one of several contents that share a fingerprint. The first keeps the fingerprint
itself. -/
def disambiguate (fingerprint : Fingerprint) (ordinal : Nat) : Fingerprint :=
  if ordinal = 0 then fingerprint
  else ⟨Blake3.digest128 (littleBytes 16 fingerprint.word.toNat ++ littleBytes 8 ordinal)⟩

end Fingerprint

end RepeatScan
