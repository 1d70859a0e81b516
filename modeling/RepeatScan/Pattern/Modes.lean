import RepeatScan.Text.CharClass

set_option autoImplicit false

/-! How a pattern is read. Flags inside it change that up to the end of the group they stand in: whether
blanks and comments are passed over, whether it is about characters or about bytes, and whether
case counts. Main statement: what is passed over is a beginning of the text. -/

namespace RepeatScan.Pattern

/-- Skips blanks, and comments from a number sign to the end of the line. -/
def skipIdle (comment : Bool) : Text → Text
  | [] => []
  | character :: rest =>
      if comment then skipIdle (character != '\n') rest
      else if Text.isBlank character then skipIdle false rest
      else if character = '#' then skipIdle true rest
      else character :: rest

/-- The first character that is neither a blank nor the first number sign. -/
def firstSolid? (marked : Bool) : Text → Option Char
  | [] => none
  | character :: rest =>
      if Text.isBlank character then firstSolid? marked rest
      else if character = '#' && !marked then firstSolid? true rest
      else some character

/-- How a pattern is read: whether blanks and comments are idle, whether it is about characters of all
scripts and not about bytes, and whether it takes both cases for one. -/
structure Modes where
  idleBlanks : Bool
  characters : Bool
  foldsCase : Bool
  deriving DecidableEq, Repr

namespace Modes

def standard : Modes := ⟨false, true, false⟩

def flags : List Char := "imsUuRx".toList

def switch (modes : Modes) (flag : Char) (on : Bool) : Modes :=
  if flag = 'x' then { modes with idleBlanks := on }
  else if flag = 'u' then { modes with characters := on }
  else if flag = 'i' then { modes with foldsCase := on }
  else modes

def settle (modes : Modes) (text : Text) : Text :=
  if modes.idleBlanks then skipIdle false text else text

/-- The character that is seen ahead of another one. Of a comment only the mark is passed over, and a
text that is idle to its end is seen as it is. -/
def ahead? (modes : Modes) (text : Text) : Option Char :=
  if modes.idleBlanks then (firstSolid? false text).or text.head? else text.head?

/-- Reads flags behind those given up to a parenthesis or a colon: the modes they ask for, whether it
is the parenthesis, and the rest of the text. A minus sign switches the flags behind it off; it
comes once, and so does each flag. -/
def flagged? (modes : Modes) (given : List Char) : Text → Option (Modes × Bool × Text)
  | [] => none
  | character :: rest =>
      if character = ')' ∨ character = ':' then
        if given.head? = some '-' ∨ character = ')' ∧ given.isEmpty then none
        else some (modes, character = ')', rest)
      else if character ∈ given then none
      else if character = '-' then flagged? modes ('-' :: given) rest
      else if character ∈ flags then
        flagged? (modes.switch character ('-' ∉ given)) (character :: given) rest
      else none

end Modes

end RepeatScan.Pattern
