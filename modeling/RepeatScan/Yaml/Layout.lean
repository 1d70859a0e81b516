import RepeatScan.Text.Decimal
import RepeatScan.Yaml.Character
import RepeatScan.Yaml.Node

set_option autoImplicit false

/-! How YAML is written: records and lists on lines of their own, and each text in the plainest style
that reads back as the same text. -/

namespace RepeatScan.Yaml

def adjacent (text : Text) : List (Char × Char) :=
  text.zip text.tail

/-- Whether a text would read as something else at the place of a plain scalar. -/
def startsIndicator : Text → Bool
  | [] => false
  | first :: rest =>
      "#,[]&*!|>'\"%@".toList.contains first || first == '\x7b' || first == '\x7d' ||
        first == '\x60' || "?:-".toList.contains first && startsGap rest

/-- Whether a text holds a colon before a gap, or a number sign behind one. -/
def holdsIndicator (text : Text) : Bool :=
  (adjacent text).any (fun pair => pair.1 == ':' && isGap pair.2 || isGap pair.1 && pair.2 == '#') ||
    text.getLast? == some ':'

def startsLikeMark (text : Text) : Bool :=
  ['-', '-', '-'].isPrefixOf text || ['.', '.', '.'].isPrefixOf text

/-- Whether a text has characters that can only be escaped, or a space before a line break. -/
def needsEscapes (text : Text) : Bool :=
  text.any (!isPrintable ·) || (adjacent text).any fun pair => pair.1 == ' ' && isBreak pair.2

def indentsLine (text : Text) : Bool :=
  (adjacent text).any fun pair => isBreak pair.1 && pair.2 == ' '

/-- Whether a text can stand between single quotes. -/
def fitsSingleQuotes (text : Text) : Bool :=
  !needsEscapes text && !indentsLine text

def fitsPlain (text : Text) : Bool :=
  fitsSingleQuotes text && !text.any isBreak && text.head? != some ' ' &&
    text.getLast? != some ' ' && !startsLikeMark text && !startsIndicator text &&
    !holdsIndicator text

def fitsBlock (text : Text) : Bool :=
  !needsEscapes text && text.getLast? != some ' '

/-- The style of a text: a block if it has newlines, quotes if it would read as something else, and
else none. -/
def styleOf (text : Text) : ScalarStyle :=
  if text.contains '\n' then if fitsBlock text then .literal else .doubleQuoted
  else if !isAmbiguous text && fitsPlain text then .plain
  else if fitsSingleQuotes text then .singleQuoted
  else .doubleQuoted

/-- A value that is to be written: a word that is no text, a text, a list of texts, or a record whose
names are plain words. -/
inductive Value where
  | word (content : Text)
  | text (content : Text)
  | texts (items : List Text)
  | record (fields : List (Text × Value))

namespace Value

mutual

def node : Value → Node
  | .word content => .scalar none .plain content
  | .text content => .scalar none (styleOf content) content
  | .texts items => .sequence (items.map fun item => .scalar none (styleOf item) item)
  | .record fields => .mapping (entries fields)

def entries : List (Text × Value) → List (Node × Node)
  | [] => []
  | (name, value) :: later => (.scalar none .plain name, node value) :: entries later

end

end Value

def escapeLetter? (character : Char) : Option Char :=
  [ (0x00, '0'), (0x07, 'a'), (0x08, 'b'), (0x09, 't'), (0x0A, 'n'), (0x0B, 'v'), (0x0C, 'f'),
    (0x0D, 'r'), (0x1B, 'e'), (0x22, '"'), (0x5C, '\\'), (0x85, 'N'), (0x2028, 'L'),
    (0x2029, 'P') ].lookup character.toNat

/-- A character behind a backslash: by its letter, or by its code point in capital digits. -/
def escape (character : Char) : Text :=
  let digits (width : Nat) := (Text.hexDigits width character.toNat).map Char.toUpper
  match escapeLetter? character with
  | some letter => ['\\', letter]
  | none =>
      if character.toNat ≤ 0xFF then ['\\', 'x'] ++ digits 2
      else if character.toNat ≤ 0xFFFF then ['\\', 'u'] ++ digits 4
      else ['\\', 'U'] ++ digits 8

def doubleQuoted (text : Text) : Text :=
  let write (character : Char) : Text :=
    if !isPrintable character || isBreak character || character == '"' || character == '\\' then
      escape character
    else [character]
  ['"'] ++ text.flatMap write ++ ['"']

/-- The characters of a text, those behind a line break behind an indentation too. -/
def indentLines (indent : Nat) (atBreak : Bool) : Text → Text → Text × Bool
  | written, [] => (written.reverse, atBreak)
  | written, character :: rest =>
      if isBreak character then indentLines indent true (character :: written) rest
      else
        let margin := if atBreak then List.replicate indent ' ' else []
        indentLines indent false (character :: margin ++ written) rest

/-- A text between single quotes, each single quote inside written twice. -/
def singleQuoted (indent : Nat) (text : Text) : Text :=
  let doubled := text.flatMap fun character =>
    if character = '\'' then ['\'', '\''] else [character]
  let (lines, atBreak) := indentLines indent false [] doubled
  ['\''] ++ lines ++ (if atBreak then List.replicate indent ' ' else []) ++ ['\'']

/-- The number of columns that each level is indented by. -/
def indentStep : Nat := 2

/-- The marks of a block: its indentation if the text begins with a gap, a minus sign if the text does
not end a line, and a plus sign if it ends with an empty line. -/
def blockMarks (text : Text) : Text :=
  let indent := if text.head?.any isGap then Text.decimal indentStep else []
  let chomping := match text.reverse with
    | [] => ['-']
    | last :: before =>
        if !isBreak last then ['-'] else if before.head?.all isBreak then ['+'] else []
  indent ++ chomping

def literalBlock (indent : Nat) (text : Text) : Text :=
  ['|'] ++ blockMarks text ++ ['\n'] ++ (indentLines indent true [] text).1

def scalarText (indent : Nat) (style : ScalarStyle) (content : Text) : Text :=
  match style with
  | .plain => content
  | .singleQuoted => singleQuoted indent content
  | .doubleQuoted => doubleQuoted content
  | .literal => literalBlock indent content
  | .folded => doubleQuoted content

def endLine (text : Text) : Text :=
  if text.getLast?.any isBreak then text else text ++ ['\n']

def textLine (indent : Nat) (text : Text) : Text :=
  endLine (scalarText indent (styleOf text) text)

def margin (indent : Nat) : Text :=
  List.replicate indent ' '

namespace Value

mutual

/-- What stands behind the name of a field, up to the end of its lines. A list is no further in than
the fields around it. -/
def lines (indent : Nat) : Value → Text
  | .word content => ' ' :: content ++ ['\n']
  | .text content => ' ' :: textLine (indent + indentStep) content
  | .texts [] => " []\n".toList
  | .texts items =>
      '\n' :: items.flatMap fun item =>
        margin indent ++ ['-', ' '] ++ textLine (indent + indentStep) item
  | .record fields => '\n' :: fieldLines (indent + indentStep) fields

def fieldLines (indent : Nat) : List (Text × Value) → Text
  | [] => []
  | (name, value) :: later =>
      margin indent ++ name ++ [':'] ++ lines indent value ++ fieldLines indent later

end

end Value

end RepeatScan.Yaml
