import RepeatScan.Pattern.Atom
import RepeatScan.Pattern.Nesting

set_option autoImplicit false

/-! Classes of characters in brackets. They hold characters, ranges and other classes, and two of them
can be joined by a doubled sign. -/

namespace RepeatScan.Pattern

/-- Where the reading of a class is: behind the bracket that opens it, behind dashes that open it, or
further on. -/
inductive BracketPlace where
  | opened
  | leading
  | inside
  deriving DecidableEq, Repr

/-- A class that is open: the depth of what stands before the last doubled sign, and the parts behind
it. -/
structure Bracket where
  place : BracketPlace
  earlier : Option Nat
  parts : Parts
  deriving DecidableEq, Repr

namespace Bracket

def start : Bracket := ⟨.opened, none, .empty⟩

def add (bracket : Bracket) (depth : Nat) : Bracket :=
  { bracket with place := .inside, parts := bracket.parts.add depth }

def depth (bracket : Bracket) : Nat :=
  bracket.parts.depthBehind bracket.earlier + 1

def join (bracket : Bracket) : Bracket :=
  ⟨.inside, some (bracket.parts.depthBehind bracket.earlier), .empty⟩

def asciiNames : List Text :=
  [ "alnum".toList, "alpha".toList, "ascii".toList, "blank".toList, "cntrl".toList,
    "digit".toList, "graph".toList, "lower".toList, "print".toList, "punct".toList,
    "space".toList, "upper".toList, "word".toList, "xdigit".toList ]

/-- Reads the name of a class between colons, behind a bracket, up to the closing bracket; a
circumflex before it makes the class a wide one. -/
def ascii? (text : Text) : Option (Atom × Text) :=
  match text with
  | ':' :: text =>
      let negated := text.head? = some '^'
      let text := if negated then text.tail else text
      let name := text.takeWhile (· ≠ ':')
      match text.drop name.length with
      | ':' :: ']' :: rest =>
          if asciiNames.contains name then some (.charClass negated, rest) else none
      | _ => none
  | _ => none

/-- Reads a character, a range or a short class, starting with a character. A dash before a closing
bracket or another dash makes no range. -/
def item? (modes : Modes) (character : Char) (rest : Text) : Option Text := do
  let (atom, behind) ← Atom.startInBrackets? modes character rest
  if !atom.fitsBrackets modes then none
  else
    match modes.settle behind with
    | [] => none
    | next :: rest =>
        if next ≠ '-' ∨ modes.ahead? rest = some ']' ∨ modes.ahead? rest = some '-' then
          some (next :: rest)
        else
          match modes.settle rest with
          | [] => none
          | character :: rest => do
              let (last, rest) ← Atom.startInBrackets? modes character rest
              let low ← atom.character?
              let high ← last.character?
              if last.fitsBrackets modes && low ≤ high then some rest else none

def startsJoint (character : Char) (rest : Text) : Bool :=
  ['&', '-', '~'].contains character && rest.head? == some character

/-- Reads up to a number of parts of classes that are open, the innermost one first, up to the end of
the outermost one: its depth and the rest of the text. -/
def run (modes : Modes) : Nat → Bracket → List Bracket → Text → Option (Nat × Text)
  | 0, _, _, _ => none
  | count + 1, bracket, outer, text =>
      match modes.settle text with
      | [] => none
      | character :: rest =>
          if bracket.place = .opened ∧ character = '^' then
            if modes.characters then run modes count { bracket with place := .leading } outer rest
            else none
          else if bracket.place ≠ .inside ∧ character = '-' then
            run modes count { bracket.add 0 with place := .leading } outer rest
          else if bracket.place ≠ .inside ∧ bracket.parts.count = 0 ∧ character = ']' then
            run modes count (bracket.add 0) outer rest
          else if character = '[' then
            match ascii? rest with
            | some (atom, rest) =>
                if atom.fitsBrackets modes then run modes count (bracket.add 0) outer rest else none
            | none => run modes count .start ({ bracket with place := .inside } :: outer) rest
          else if character = ']' then
            match outer with
            | [] => some (bracket.depth, rest)
            | around :: outer => run modes count (around.add bracket.depth) outer rest
          else if startsJoint character rest then run modes count bracket.join outer rest.tail
          else do run modes count (bracket.add 0) outer (← item? modes character rest)

end Bracket

/-- Reads a class behind the bracket that opens it: its depth and the rest of the text. -/
def bracketed? (modes : Modes) (text : Text) : Option (Nat × Text) :=
  Bracket.run modes (text.length + 1) .start [] text

end RepeatScan.Pattern
