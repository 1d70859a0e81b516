import RepeatScan.Text.Decimal

set_option autoImplicit false

/-! The size of numbers written in scientific form, as far as floating-point numbers of 64 bits
reach. The digits and the power of ten decide when they leave no doubt, and else the exact value. -/

namespace RepeatScan.Text

/-- The least number that rounds beyond all floating-point numbers of 64 bits. -/
def floatBound : Nat :=
  1 <<< 1024 - 1 <<< 970

/-- The number of bits that a floating-point number keeps. -/
def floatBits : Nat := 53

/-- A quotient rounded to the nearest whole number, to the even one of two. -/
def divideToEven (number divisor : Nat) : Nat :=
  let quotient := number / divisor
  let double := 2 * (number % divisor)
  if divisor < double ∨ double = divisor ∧ quotient % 2 = 1 then quotient + 1 else quotient

/-- The floating-point number nearest to a natural number, whatever its size. -/
def nearestFloat (number : Nat) : Nat :=
  let unit := 1 <<< (number.log2 + 1 - floatBits)
  divideToEven number unit * unit

/-- Whether a natural number times a power of ten is beyond all floating-point numbers. -/
def isBeyondFloats (significand : Nat) (power : Int) : Bool :=
  let size : Int := (decimal significand).length + power
  if significand = 0 ∨ size < 300 then false
  else if 400 < size then true
  else floatBound * Nat.pow 10 (-power).toNat ≤ significand * Nat.pow 10 power.toNat

end RepeatScan.Text
