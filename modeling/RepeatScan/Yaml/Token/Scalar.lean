import RepeatScan.Text.Hex
import RepeatScan.Yaml.Character

set_option autoImplicit false

/-! Scalars as they stand in a text. A single line break inside a plain or quoted scalar reads as a
space and further ones as themselves; a block scalar keeps its line breaks, or folds them in the
same way. -/

namespace RepeatScan.Yaml

/-- The content of a scalar, the place behind it and the rest of the text. -/
structure Scanned where
  content : Text
  place : Place
  rest : Text

/-- What stands between two words: blanks, or line breaks with a first one, which may be dropped, and
later ones, last one first. -/
structure Gap where
  blanks : Text
  broken : Bool
  first : Option Char
  later : Text

namespace Gap

def empty : Gap := ⟨[], false, none, []⟩

def isEmpty (gap : Gap) : Bool :=
  gap.blanks.isEmpty && !gap.broken

/-- A gap with one more character. Blanks around line breaks do not count. -/
def add (gap : Gap) (character : Char) : Gap :=
  if isBreak character then
    if gap.broken then { gap with later := character :: gap.later }
    else ⟨[], true, some character, []⟩
  else if gap.broken then gap
  else { gap with blanks := character :: gap.blanks }

/-- A gap that a backslash opens at the end of a line. -/
def escaped : Gap := ⟨[], true, none, []⟩

/-- What is read for a gap, behind what is already read (last character first). -/
def fill (gap : Gap) (content : Text) : Text :=
  if !gap.broken then gap.blanks ++ content
  else if gap.first = some '\n' then
    if gap.later.isEmpty then ' ' :: content else gap.later ++ content
  else gap.later ++ gap.first.toList ++ content

end Gap

def isFlowMark (character : Char) : Bool :=
  character == ',' || character == '[' || character == ']' || character == '\x7b' ||
    character == '\x7d'

/-- Whether a plain scalar ends before a word behind a gap. -/
def endsBeforeWord (flow : Bool) (margin : Nat) (place : Place) (text : Text) : Bool :=
  !flow && place.column < margin || text.head? == some '#' ||
    place.column == 0 && (documentMark? text).isSome

/-- Reads a plain scalar from inside it, with the gap before the next character. A text that ends
behind a line break says so. -/
def plainFrom (flow : Bool) (margin : Nat) (place : Place) (content : Text) (gap : Gap) :
    Text → Option (Scanned × Bool)
  | [] => some (⟨content.reverse, place, []⟩, gap.broken)
  | character :: rest =>
      if isGap character then
        if gap.broken && character == '\t' && place.column < margin then none
        else plainFrom flow margin (place.advance character) content (gap.add character) rest
      else if !gap.isEmpty && endsBeforeWord flow margin place (character :: rest) then
        some (⟨content.reverse, place, character :: rest⟩, gap.broken)
      else if flow && character == ':' && rest.head?.any fun next => isFlowMark next || next == '?'
      then none
      else if character == ':' && startsGap rest || flow && isFlowMark character then
        some (⟨content.reverse, place, character :: rest⟩, gap.broken)
      else
        plainFrom flow margin (place.advance character) (character :: gap.fill content) .empty rest

/-- Where a quoted scalar is: in its content, behind the character that escapes the next one, or in
the digits of a code point. -/
inductive QuotedMode where
  | content
  | escape
  | digits (left value : Nat)

/-- The character that a letter stands for behind a backslash. -/
def escapedChar? (letter : Char) : Option Char :=
  [ ('0', '\x00'), ('a', '\x07'), ('b', '\x08'), ('t', '\t'), ('\t', '\t'), ('n', '\n'),
    ('v', '\x0b'), ('f', '\x0c'), ('r', '\r'), ('e', '\x1b'), (' ', ' '), ('"', '"'), ('/', '/'),
    ('\\', '\\'), ('N', Char.ofNat 0x85), ('_', Char.ofNat 0xA0), ('L', Char.ofNat 0x2028),
    ('P', Char.ofNat 0x2029) ].lookup letter

def codePointWidth? (letter : Char) : Option Nat :=
  [('x', 2), ('u', 4), ('U', 8)].lookup letter

def codePoint? (value : Nat) : Option Char :=
  if value.isValidChar then some (Char.ofNat value) else none

/-- Reads a quoted scalar from inside it, up to its closing quote. -/
def quotedFrom (double : Bool) (place : Place) (content : Text) (gap : Gap) :
    QuotedMode → Text → Option Scanned
  | _, [] => none
  | .digits left value, character :: rest => do
      let value := value * 16 + (← Text.hexValue? character)
      if left ≤ 1 then
        quotedFrom double (place.forward 1) ((← codePoint? value) :: content) .empty .content rest
      else quotedFrom double (place.forward 1) content .empty (.digits (left - 1) value) rest
  | .escape, character :: rest =>
      if !double then
        quotedFrom double (place.forward 1) (character :: content) .empty .content rest
      else if isBreak character then
        quotedFrom double (place.advance character) content .escaped .content rest
      else match codePointWidth? character with
        | some width =>
            quotedFrom double (place.forward 1) content .empty (.digits width 0) rest
        | none => do
            let meant ← escapedChar? character
            quotedFrom double (place.forward 1) (meant :: content) .empty .content rest
  | .content, character :: rest =>
      if isGap character then
        quotedFrom double (place.advance character) content (gap.add character) .content rest
      else if place.column = 0 ∧ (documentMark? (character :: rest)).isSome then none
      else
        let content := gap.fill content
        let escapes := if double then character == '\\'
          else character == '\'' && rest.head? == some '\''
        if escapes then quotedFrom double (place.forward 1) content .empty .escape rest
        else if character = (if double then '"' else '\'') then
          some ⟨content.reverse, place.forward 1, rest⟩
        else quotedFrom double (place.forward 1) (character :: content) .empty .content rest

/-- What becomes of the line breaks at the end of a block scalar. -/
inductive Chomping where
  | strip
  | clip
  | keep
  deriving DecidableEq, Repr

/-- What the first line of a block scalar says: its chomping, and how much it is indented. -/
structure BlockHeader where
  chomping : Chomping
  indent : Option Nat

namespace BlockHeader

def takeChomping : Text → Option Chomping × Text
  | '-' :: rest => (some .strip, rest)
  | '+' :: rest => (some .keep, rest)
  | text => (none, text)

/-- Reads a digit for the indentation, if there is one; it is not zero. -/
def takeIndent (text : Text) : Option (Option Nat × Text) :=
  match text with
  | [] => some (none, [])
  | digit :: rest =>
      if digit = '0' then none
      else if digit.isDigit then some (some (digit.toNat - '0'.toNat), rest)
      else some (none, text)

def ofText (text : Text) : Option (BlockHeader × Text) := do
  let (early, rest) := takeChomping text
  let (indent, rest) ← takeIndent rest
  let (late, rest) := if early.isNone && indent.isSome then takeChomping rest else (none, rest)
  return (⟨(early.or late).getD .clip, indent⟩, rest)

end BlockHeader

/-- The indentation of the lines of a block scalar that does not say it: that of its first line, or
more if a line before that has more blanks. -/
def marginOf (column widest : Nat) : Text → Option Nat
  | [] => some (max widest column)
  | character :: rest =>
      if character = ' ' then marginOf (column + 1) widest rest
      else if character = '\t' then none
      else if isBreak character then marginOf 0 (max widest column) rest
      else some (max widest column)

/-- The part of a block scalar that is read: the content and the line breaks behind it, each last
character first, whether the last line began with a blank, and whether it goes on. -/
structure Block where
  content : Text
  first : Option Char
  later : Text
  afterBlank : Bool
  inLine : Bool

namespace Block

def start : Block := ⟨[], none, [], false, false⟩

def beginLine (block : Block) (literal : Bool) (character : Char) : Block :=
  let folds := !literal && block.first = some '\n' && !block.afterBlank && !isBlank character
  let joined :=
    if !folds then block.first.toList ++ block.content
    else if block.later.isEmpty then ' ' :: block.content
    else block.content
  ⟨character :: block.later ++ joined, none, [], isBlank character, true⟩

/-- The content with the line breaks that are kept. -/
def finish (block : Block) (chomping : Chomping) : Text :=
  match chomping with
  | .strip => block.content.reverse
  | .clip => (block.first.toList ++ block.content).reverse
  | .keep => (block.later ++ block.first.toList ++ block.content).reverse

end Block

def blockFrom (literal : Bool) (margin : Nat) (place : Place) (block : Block) :
    Text → Option (Block × Place × Text)
  | [] => some (block, place, [])
  | character :: rest =>
      if isBreak character then
        let block := if block.inLine then { block with first := some character, inLine := false }
          else { block with later := character :: block.later }
        blockFrom literal margin (place.advance character) block rest
      else if block.inLine then
        blockFrom literal margin (place.forward 1)
          { block with content := character :: block.content } rest
      else if margin ≤ place.column then
        blockFrom literal margin (place.forward 1) (block.beginLine literal character) rest
      else if character = ' ' then blockFrom literal margin (place.forward 1) block rest
      else if character = '\t' then none
      else some (block, place, character :: rest)

/-- The rest of a line that holds nothing but blanks and a comment. -/
def lineEnd? (text : Text) : Option Text :=
  let rest := text.dropWhile isBlank
  match rest with
  | '#' :: _ => some (rest.dropWhile (!isBreak ·))
  | _ => if rest.head?.all isBreak then some rest else none

/-- Reads a block scalar behind its mark, inside lines that are indented to a column. -/
def block? (literal : Bool) (indent : Option Nat) (place : Place) (text : Text) :
    Option Scanned := do
  let (header, marked) ← BlockHeader.ofText text
  let ended ← lineEnd? marked
  let (place, rest) := (place.forward (text.length - ended.length)).pastBreak ended
  let margin ← match header.indent with
    | some more => some (indent.getD 0 + more)
    | none => (marginOf 0 0 rest).map fun widest => max (max widest ((indent.map (· + 1)).getD 0)) 1
  let (block, place, rest) ← blockFrom literal margin place .start rest
  return ⟨block.finish header.chomping, place, rest⟩

end RepeatScan.Yaml
