import RepeatScan.Text.Decimal
import RepeatScan.Yaml.Node
import RepeatScan.Yaml.Token.Scalar

set_option autoImplicit false

/-! The tokens of a YAML text: marks, names, tags, directives and scalars. The beginning and end of an
indented list or map are tokens too, and so is the place where a key begins. -/

namespace RepeatScan.Yaml

/-- A token. Lists and maps are indented, or stand in brackets. -/
inductive Token where
  | version (major minor : Nat)
  | shorthand (handle expansion : Text)
  | document (mark : DocumentMark)
  | listStart
  | mapStart
  | blockEnd
  | openList
  | closeList
  | openMap
  | closeMap
  | item
  | comma
  | key
  | value
  | alias (name : Text)
  | anchor (name : Text)
  | tag (handle suffix : Text)
  | scalar (style : ScalarStyle) (content : Text)
  deriving DecidableEq, Repr

namespace Token

/-- Whether an alias or an anchor may end before a text. -/
def endsName (text : Text) : Bool :=
  startsGap text || text.head?.any fun character =>
    "?:,]%@".toList.contains character || character == '\x7d' || character == '\x60'

/-- The name behind the mark of an alias or an anchor, and the rest of the text. -/
def name? (text : Text) : Option (Text × Text) :=
  let name := text.takeWhile isNameChar
  let rest := text.drop name.length
  if name.isEmpty || !endsName rest then none else some (name, rest)

/-- Characters that tags are made of; some are only for tags that stand between angle brackets. -/
def isTagChar (verbatim : Bool) (character : Char) : Bool :=
  isNameChar character || ";/?:@&=+$.!~*'()%".toList.contains character ||
    verbatim && ",[]".toList.contains character

/-- The number of bytes of an encoded character by the first of them. -/
def encodedWidth? (byte : Nat) : Option Nat :=
  if byte < 0x80 then some 1
  else if byte < 0xC0 then none
  else if byte < 0xE0 then some 2
  else if byte < 0xF0 then some 3
  else if byte < 0xF8 then some 4
  else none

/-- Reads a tag behind what is already read (last character first), and the rest of the text. A
percent sign stands before the two digits of a byte; characters of several bytes are not told
apart. -/
def tagFrom (verbatim : Bool) (content : Text) (pending : Nat) : Text → Option (Text × Text)
  | '%' :: high :: low :: rest => do
      let byte := (← Text.hexValue? high) * 16 + (← Text.hexValue? low)
      match pending with
      | more + 1 => if byte / 64 = 2 then tagFrom verbatim content more rest else none
      | 0 => do
          let width ← encodedWidth? byte
          let character := if width = 1 then Char.ofNat byte else Char.ofNat 0xFFFD
          tagFrom verbatim (character :: content) (width - 1) rest
  | [] => if pending = 0 then some (content.reverse, []) else none
  | character :: rest =>
      if pending ≠ 0 ∨ character = '%' then none
      else if isTagChar verbatim character then tagFrom verbatim (character :: content) 0 rest
      else some (content.reverse, character :: rest)

/-- The handle at the beginning of a text: an exclamation mark, and perhaps a name and another
one. -/
def handle? : Text → Option (Text × Text)
  | '!' :: text =>
      let name := text.takeWhile isNameChar
      match text.drop name.length with
      | '!' :: rest => some ('!' :: name ++ ['!'], rest)
      | rest => some ('!' :: name, rest)
  | _ => none

/-- The part of a tag that counts: a zero byte ends it. -/
def untilZero (content : Text) : Text :=
  content.takeWhile (·.toNat ≠ 0)

/-- The parts of a tag: a handle, which is empty for a tag that is not to be expanded, and what
follows it. -/
def tagParts? : Text → Option ((Text × Text) × Text)
  | '!' :: '<' :: text => do
      let (content, rest) ← tagFrom true [] 0 text
      match rest with
      | '>' :: rest => if content.isEmpty then none else return (([], untilZero content), rest)
      | _ => none
  | text => do
      let (handle, rest) ← handle? text
      if 1 < handle.length ∧ handle.getLast? = some '!' then
        let (suffix, rest) ← tagFrom false [] 0 rest
        if suffix.isEmpty then none else return ((handle, untilZero suffix), rest)
      else
        let (content, rest) ← tagFrom false handle.tail.reverse 0 rest
        let suffix := untilZero content
        return (if suffix.isEmpty then ([], ['!']) else (['!'], suffix), rest)

def tag? (flow : Bool) (text : Text) : Option (Token × Text) := do
  let ((handle, suffix), rest) ← tagParts? text
  if startsGap rest || flow && rest.head? = some ',' then return (.tag handle suffix, rest)
  else none

/-- The part of a version number at the beginning of a text: one to nine digits. -/
def versionPart? (text : Text) : Option (Nat × Text) :=
  let digits := text.takeWhile Char.isDigit
  if digits.isEmpty ∨ 9 < digits.length then none
  else some (Text.digitsFrom 0 digits, text.drop digits.length)

def directiveValue? (name text : Text) : Option (Token × Text) := do
  if name = "YAML".toList then
    let (major, rest) ← versionPart? text
    match rest with
    | '.' :: rest => do
        let (minor, rest) ← versionPart? rest
        return (.version major minor, rest)
    | _ => none
  else if name = "TAG".toList then
    let (handle, rest) ← handle? text
    if handle ≠ ['!'] ∧ handle.getLast? ≠ some '!' ∨ !rest.head?.any isBlank then none
    else
      let (expansion, rest) ← tagFrom true [] 0 (rest.dropWhile isBlank)
      if expansion.isEmpty || !startsGap rest then none
      else return (.shorthand handle (untilZero expansion), rest)
  else none

/-- The directive behind a percent sign, and the rest of the text from the end of its line on. -/
def directive? (text : Text) : Option (Token × Text) := do
  let name := text.takeWhile isNameChar
  let rest := text.drop name.length
  if name.isEmpty || !startsGap rest then none
  else
    let (token, rest) ← directiveValue? name (rest.dropWhile isBlank)
    return (token, ← lineEnd? rest)

end Token

end RepeatScan.Yaml
