import RepeatScan.Json.Token
import RepeatScan.Text.Magnitude

set_option autoImplicit false

/-! The size that a JSON number is read with. The digits make up a significand of 64 bits, as far as
they fit, and a power of ten. Both are rounded to floating-point numbers before they are
multiplied, so that the bound is not sharp. -/

namespace RepeatScan.Json

/-- A natural number of 64 bits times a power of ten. -/
structure Scaled where
  significand : Nat
  power : Int
  deriving DecidableEq, Repr

namespace Scaled

/-- The digits before the point. Those that do not fit into the significand count for the power
only. -/
def ofWhole (digits : Text) : Scaled :=
  let (significand, left) := Text.digitsBelow UInt64.size 0 digits
  ⟨significand, left.length⟩

/-- A number with the digits behind the point. Those that do not fit into the significand do not
count. -/
def addFraction (scaled : Scaled) (digits : Text) : Scaled :=
  let (significand, left) := Text.digitsBelow UInt64.size scaled.significand digits
  ⟨significand, scaled.power - (digits.length - left.length)⟩

/-- A number times one more power of ten, which says whether it is negative. -/
def addExponent (scaled : Scaled) (exponent : Bool × Text) : Scaled :=
  let size : Int := Text.digitsFrom 0 exponent.2
  { scaled with power := if exponent.1 then scaled.power - size else scaled.power + size }

/-- The largest power of ten that is a floating-point number. -/
def powerLimit : Int := 308

/-- Whether a number is read as one beyond all floating-point numbers. -/
def isHuge (scaled : Scaled) : Bool :=
  if scaled.significand = 0 ∨ scaled.power < 0 then false
  else if powerLimit < scaled.power then true
  else
    Text.floatBound ≤
      Text.nearestFloat scaled.significand * Text.nearestFloat (Nat.pow 10 scaled.power.toNat)

end Scaled

/-- The significand and the power of ten of a number. -/
def Numeral.scaled (numeral : Numeral) : Scaled :=
  let plain := (Scaled.ofWhole numeral.whole).addFraction (numeral.fraction.getD [])
  (numeral.exponent.map plain.addExponent).getD plain

/-- Whether a number is read as one beyond all floating-point numbers of 64 bits. -/
def Numeral.isHuge (numeral : Numeral) : Bool :=
  numeral.scaled.isHuge

end RepeatScan.Json
