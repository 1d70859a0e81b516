import RepeatScan.Text.CodeRange

set_option autoImplicit false

/-! The order of texts, character by character and by code point. Encoded texts are in the same order
byte by byte. -/

namespace RepeatScan.Text

/-- Whether a text comes before another one or is the same. -/
def precedes : Text → Text → Bool
  | [], _ => true
  | _ :: _, [] => false
  | left :: lefts, right :: rights =>
      left.toNat < right.toNat || left == right && precedes lefts rights

end RepeatScan.Text
