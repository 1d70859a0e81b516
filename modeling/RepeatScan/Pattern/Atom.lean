import RepeatScan.Pattern.Modes
import RepeatScan.Text.Hex

set_option autoImplicit false

/-! The smallest parts of a pattern: single characters, classes of characters that have a short name,
and places between characters. A pattern that is about bytes may hold only parts that match whole
characters. -/

namespace RepeatScan.Pattern

/-- A smallest part. A literal may be given as a byte; a class may hold characters that are no ASCII
ones; an edge is one of words or of lines and texts. -/
inductive Atom where
  | literal (character : Char) (asByte : Bool)
  | charClass (wide : Bool)
  | edge (ofWords : Bool)
  deriving DecidableEq, Repr

namespace Atom

/-- Whether a part may stand in a pattern. Edges of words are known for bytes only. -/
def fits (modes : Modes) : Atom → Bool
  | literal character asByte =>
      modes.characters || character.toNat < 0x80 || !(asByte || modes.foldsCase)
  | charClass wide => modes.characters || !wide
  | edge ofWords => !(ofWords && modes.characters)

def fitsBrackets (modes : Modes) : Atom → Bool
  | literal character _ => modes.characters || character.toNat < 0x80
  | charClass wide => modes.characters || !wide
  | edge _ => false

def character? : Atom → Option Char
  | literal character _ => some character
  | _ => none

def categories : List Char := "clmnpsz".toList

/-- The part that a letter stands for behind a backslash. -/
def named? (letter : Char) : Option Atom :=
  if letter ∈ "dsw".toList then some (charClass false)
  else if letter ∈ "DSW".toList then some (charClass true)
  else if letter ∈ "bB<>".toList then some (edge true)
  else if letter ∈ "Az".toList then some (edge false)
  else
    ([ ('a', '\x07'), ('f', '\x0c'), ('t', '\t'), ('n', '\n'), ('r', '\r'),
       ('v', '\x0b') ].lookup letter).map (literal · false)

def codePointWidth? (letter : Char) : Option Nat :=
  [('x', 2), ('u', 4), ('U', 8)].lookup letter

/-- Reads a number of hexadecimal digits behind those already read. -/
def hexFrom (modes : Modes) : Nat → Nat → Text → Option (Nat × Text)
  | 0, value, text => some (value, text)
  | left + 1, value, text =>
      match modes.settle text with
      | [] => none
      | digit :: rest => do hexFrom modes left (value * 16 + (← Text.hexValue? digit)) rest

/-- Reads what stands behind a backslash. Anything but letters and digits stands for itself. -/
def escaped? (modes : Modes) : Text → Option (Atom × Text)
  | [] => none
  | first :: rest =>
      match codePointWidth? first with
      | some width => do
          let (value, rest) ← hexFrom modes width 0 rest
          if value.isValidChar then some (literal (Char.ofNat value) (width = 2), rest) else none
      | none =>
          if first = 'p' ∨ first = 'P' then
            match modes.settle rest with
            | [] => none
            | letter :: rest =>
                if letter.toLower ∈ categories then some (charClass true, rest) else none
          else match named? first with
            | some atom => some (atom, rest)
            | none =>
                if first.toNat < 0x80 && !first.isAlphanum then some (literal first false, rest)
                else none

def start? (modes : Modes) (character : Char) (rest : Text) : Option (Atom × Text) :=
  if character = '\\' then escaped? modes rest
  else if character = '.' then some (charClass true, rest)
  else if character = '^' ∨ character = '$' then some (edge false, rest)
  else some (literal character false, rest)

def startInBrackets? (modes : Modes) (character : Char) (rest : Text) : Option (Atom × Text) :=
  if character = '\\' then escaped? modes rest else some (literal character false, rest)

end Atom

end RepeatScan.Pattern
