set_option autoImplicit false

/-! A text is the list of its characters. A class of characters is a list of ranges of code
points; membership in it is decided range by range. -/

namespace RepeatScan

/-- A text, character by character. -/
abbrev Text := List Char

namespace Text

abbrev CodeRange := Nat × Nat

/-- A character lies in a list of ranges when its code point lies in one of them. -/
def CodeRange.covers (ranges : List CodeRange) (character : Char) : Bool :=
  ranges.any fun range => range.1 ≤ character.toNat && character.toNat ≤ range.2

end Text

end RepeatScan
