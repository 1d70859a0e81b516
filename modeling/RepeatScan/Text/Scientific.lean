import RepeatScan.Text.Decimal

set_option autoImplicit false

/-! Numbers in scientific form: digits with or without a point, and perhaps a power of ten behind a
letter e. -/

namespace RepeatScan.Text

def dropSign : Text → Text
  | '+' :: rest => rest
  | '-' :: rest => rest
  | text => text

/-- A natural number times a power of ten. -/
structure Scientific where
  significand : Nat
  power : Int
  deriving DecidableEq, Repr

/-- The power of ten behind a letter e; no letter stands for none. -/
def exponent? : Text → Option Int
  | [] => some 0
  | mark :: exponent =>
      if mark = 'e' ∨ mark = 'E' then
        (digits? (dropSign exponent)).map fun size =>
          if exponent.head? = some '-' then -(size : Int) else size
      else none

/-- The number that a word without sign stands for. -/
def scientific? (word : Text) : Option Scientific :=
  let whole := word.takeWhile Char.isDigit
  let behind := word.dropWhile Char.isDigit
  let (fraction, rest) := match behind with
    | '.' :: digits => (digits.takeWhile Char.isDigit, digits.dropWhile Char.isDigit)
    | _ => ([], behind)
  if whole.isEmpty && fraction.isEmpty then none
  else
    (exponent? rest).map fun power =>
      ⟨digitsFrom 0 (whole ++ fraction), power - fraction.length⟩

end RepeatScan.Text
