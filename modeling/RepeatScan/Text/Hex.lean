import RepeatScan.Text.CodeRange

set_option autoImplicit false

/-! Numbers in hexadecimal digits, and in the digits of smaller bases. They are written in small
letters with a given number of places, and read in small and capital letters. -/

namespace RepeatScan.Text

/-- The digit for a value below sixteen, in small letters. -/
def hexDigit (value : Nat) : Char :=
  if value < 10 then Char.ofNat ('0'.toNat + value) else Char.ofNat ('a'.toNat + (value - 10))

def hexValue? (character : Char) : Option Nat :=
  if '0' ≤ character ∧ character ≤ '9' then some (character.toNat - '0'.toNat)
  else if 'a' ≤ character ∧ character ≤ 'f' then some (character.toNat - 'a'.toNat + 10)
  else if 'A' ≤ character ∧ character ≤ 'F' then some (character.toNat - 'A'.toNat + 10)
  else none

/-- The digits of a number at the given places, the lowest place last. -/
def hexDigits : Nat → Nat → Text
  | 0, _ => []
  | places + 1, number => hexDigits places (number / 16) ++ [hexDigit (number % 16)]

/-- The number that values of digits make up, the lowest place last. -/
def ofDigits (base : Nat) (values : List Nat) : Nat :=
  values.foldl (fun number value => number * base + value) 0

/-- The number that digits of a base up to sixteen stand for, if there are any and nothing else. -/
def inBase? (base : Nat) (digits : Text) : Option Nat :=
  if digits.isEmpty then none
  else (digits.mapM fun digit => (hexValue? digit).filter (· < base)).map (ofDigits base)

@[simp]
theorem length_hexDigits (places number : Nat) : (hexDigits places number).length = places := by
  induction places generalizing number with
  | zero => rfl
  | succ places ih => simp [hexDigits, ih]

theorem hexValue?_hexDigit {value : Nat} (small : value < 16) :
    hexValue? (hexDigit value) = some value := by
  have all : ∀ digit < 16, hexValue? (hexDigit digit) = some digit := by decide
  exact all value small

end RepeatScan.Text
