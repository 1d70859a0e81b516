import RepeatScan.Text.CodeRange

set_option autoImplicit false

/-! Numbers in decimal digits. They are written with the most significant digit first and without
leading zeros, and read with any number of those. -/

namespace RepeatScan.Text

def decimal (number : Nat) : Text :=
  Nat.toDigits 10 number

/-- Reads a run of digits behind a number already read. -/
def digitsFrom (number : Nat) (digits : Text) : Nat :=
  digits.foldl (fun value digit => value * 10 + (digit.toNat - '0'.toNat)) number

/-- The number that digits stand for, if there are any and nothing else. -/
def digits? (text : Text) : Option Nat :=
  if !text.isEmpty && text.all Char.isDigit then some (digitsFrom 0 text) else none

/-- A text without the plus sign at its beginning. -/
def dropPlus : Text → Text
  | '+' :: rest => rest
  | text => text

/-- The number below a limit that a text stands for; it may have a plus sign. -/
def natural? (limit : Nat) (text : Text) : Option Nat :=
  (digits? (dropPlus text)).filter (· < limit)

/-- Reads digits behind a number already read as long as it stays below a limit; the other digits are
left. -/
def digitsBelow (limit number : Nat) : Text → Nat × Text
  | [] => (number, [])
  | digit :: digits =>
      let longer := digitsFrom number [digit]
      if longer < limit then digitsBelow limit longer digits else (number, digit :: digits)

end RepeatScan.Text
