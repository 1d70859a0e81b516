import RepeatScan.Text.CharClass

set_option autoImplicit false

/-! A text as a literal in double quotes, for messages that quote a value. Characters that would
not show, or would attach to the quote, are written by code point. -/

namespace RepeatScan.Text

/-- The escape by code point, in lower-case hexadecimal digits without leading zeros. -/
def codePointEscape (character : Char) : Text :=
  ['\\', 'u', '{'] ++ Nat.toDigits 16 character.toNat ++ ['}']

/-- How a character stands inside a quoted literal. -/
def literalChar (character : Char) : Text :=
  if character.toNat = 0 then ['\\', '0']
  else if character = '\t' then ['\\', 't']
  else if character = '\r' then ['\\', 'r']
  else if character = '\n' then ['\\', 'n']
  else if character = '"' || character = '\\' then ['\\', character]
  else if isExtender character || isHidden character then codePointEscape character
  else [character]

def literal (text : Text) : Text :=
  ['"'] ++ text.flatMap literalChar ++ ['"']

end RepeatScan.Text
