import RepeatScan.Text.CodeRange

set_option autoImplicit false

/-! The classes of characters that YAML tells apart. A carriage return, with or without a newline
behind it, and the control character for a next line all read as a newline; the separators for
lines and paragraphs break lines too, but stay what they are. -/

namespace RepeatScan.Yaml

def isBreak (character : Char) : Bool :=
  character == '\n' || character.toNat == 0x2028 || character.toNat == 0x2029

def isBlank (character : Char) : Bool :=
  character == ' ' || character == '\t'

def isGap (character : Char) : Bool :=
  isBlank character || isBreak character

def startsGap (text : Text) : Bool :=
  text.head?.all isGap

def isByteOrderMark (character : Char) : Bool :=
  character.toNat == 0xFEFF

def isNameChar (character : Char) : Bool :=
  character.isAlphanum || character == '_' || character == '-'

def isAllowed (character : Char) : Bool :=
  Text.CodeRange.covers
    [ (0x0009, 0x000A), (0x000D, 0x000D), (0x0020, 0x007E), (0x0085, 0x0085), (0x00A0, 0xFFFD),
      (0x10000, 0x10FFFF) ]
    character

def isPrintable (character : Char) : Bool :=
  Text.CodeRange.covers
    [ (0x000A, 0x000A), (0x0020, 0x007E), (0x00A0, 0xFEFE), (0xFF00, 0xFFFD),
      (0x10000, 0x10FFFF) ]
    character

/-- Whether a carriage return came right before, and the text so far, last character first. -/
structure Breaks where
  afterReturn : Bool
  text : Text

def Breaks.add (breaks : Breaks) (character : Char) : Breaks :=
  if character = '\n' && breaks.afterReturn then { breaks with afterReturn := false }
  else if character = '\r' then ⟨true, '\n' :: breaks.text⟩
  else if character.toNat = 0x85 then ⟨false, '\n' :: breaks.text⟩
  else ⟨false, character :: breaks.text⟩

/-- A text in which all that reads as a newline is one. -/
def unifyBreaks (text : Text) : Text :=
  (text.foldl Breaks.add ⟨false, []⟩).text.reverse

/-- A place in a text: how many characters are before it, on which line it is, and in which column,
all counted from zero. -/
structure Place where
  index : Nat
  line : Nat
  column : Nat
  deriving DecidableEq, Repr

namespace Place

def start : Place := ⟨0, 0, 0⟩

/-- The place some characters further in the line. -/
def forward (place : Place) (count : Nat) : Place :=
  { place with index := place.index + count, column := place.column + count }

def advance (place : Place) (character : Char) : Place :=
  if isBreak character then ⟨place.index + 1, place.line + 1, 0⟩ else place.forward 1

/-- The place and the text behind the first character of a text, which ends a line. -/
def pastBreak (place : Place) : Text → Place × Text
  | [] => (place, [])
  | character :: rest => (place.advance character, rest)

end Place

/-- The marks between documents: three dashes before one, three dots behind one. -/
inductive DocumentMark where
  | start
  | stop
  deriving DecidableEq, Repr

def documentMark? : Text → Option DocumentMark
  | '-' :: '-' :: '-' :: rest => if startsGap rest then some .start else none
  | '.' :: '.' :: '.' :: rest => if startsGap rest then some .stop else none
  | _ => none

end RepeatScan.Yaml
