import RepeatScan.Text.CodeRange
import RepeatScan.Text.Table.Letter
import RepeatScan.Text.Table.WordMark
import RepeatScan.Text.Table.Newcomer
import RepeatScan.Text.Table.Extender
import RepeatScan.Text.Table.Hidden
import RepeatScan.Text.Table.Numeral

set_option autoImplicit false

/-! The classes of characters that the library tells apart. Letters, numerals and what prints are those
of edition 17 of Unicode, and words are made of the characters of edition 16. Every character is
exactly one of word, symbol and blank. -/

namespace RepeatScan.Text

/-- White space, as the Unicode property White_Space has it. -/
def isBlank (character : Char) : Bool :=
  CodeRange.covers
    [ (0x0009, 0x000D), (0x0020, 0x0020), (0x0085, 0x0085), (0x00A0, 0x00A0), (0x1680, 0x1680),
      (0x2000, 0x200A), (0x2028, 0x2029), (0x202F, 0x202F), (0x205F, 0x205F), (0x3000, 0x3000) ]
    character

def isLetter (character : Char) : Bool :=
  if character.toNat < 0x80 then character.isAlpha else CodeRange.covers Table.letters character

/-- Characters that edition 17 of Unicode added. -/
def isNewcomer (character : Char) : Bool :=
  CodeRange.covers Table.newcomers character

/-- Characters that make up words: letters, marks, decimal digits, connectors and joiners, as long as
they are no newcomers. -/
def isWordChar (character : Char) : Bool :=
  if character.toNat < 0x80 then character.isAlphanum || character == '_'
  else (isLetter character || CodeRange.covers Table.wordMarks character) && !isNewcomer character

def isLetterOrNumeral (character : Char) : Bool :=
  isLetter character ||
    if character.toNat < 0x80 then character.isDigit
    else CodeRange.covers Table.numerals character

/-- Characters that attach to the one before them. -/
def isExtender (character : Char) : Bool :=
  CodeRange.covers Table.extenders character

def isHidden (character : Char) : Bool :=
  if character.toNat < 0x7F then character.toNat < 0x20 else CodeRange.covers Table.hidden character

/-- What a character contributes to a line: part of a word, part of a symbol, or a gap. -/
inductive CharKind where
  | word
  | symbol
  | blank
  deriving DecidableEq, Repr

def kindOf (character : Char) : CharKind :=
  if isWordChar character then .word else if isBlank character then .blank else .symbol

theorem kindOf_eq_word_iff {character : Char} :
    kindOf character = .word ↔ isWordChar character = true := by
  unfold kindOf
  by_cases word : isWordChar character <;> by_cases blank : isBlank character <;> simp [word, blank]

end RepeatScan.Text
