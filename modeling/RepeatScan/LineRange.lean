import RepeatScan.Text.Decimal

set_option autoImplicit false

/-! Ranges of line numbers. Lines count from one and both ends are included; the range from zero to
zero stands for no line at all. -/

namespace RepeatScan

/-- A range of lines, both ends included. -/
structure LineRange where
  first : Nat
  last : Nat
  deriving DecidableEq, Repr

namespace LineRange

def zero : LineRange := ⟨0, 0⟩

def precedes (left right : LineRange) : Bool :=
  left.first < right.first || left.first == right.first && left.last ≤ right.last

/-- The two line numbers with a dash between them. -/
def display (range : LineRange) : Text :=
  Text.decimal range.first ++ ['-'] ++ Text.decimal range.last

end LineRange

end RepeatScan
