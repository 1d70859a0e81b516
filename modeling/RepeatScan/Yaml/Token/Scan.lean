import RepeatScan.Yaml.Token.Basic

set_option autoImplicit false

/-! The tokens of a text in order. Lists and maps without brackets begin and end where the indentation
changes, and a key is known for one only at the colon behind it, so the place of a possible key is
kept in mind. -/

namespace RepeatScan.Yaml

/-- A place where a key may have begun: how many tokens were before it, and whether nothing but a key
can stand there. -/
structure KeyPlace where
  required : Bool
  behind : Nat
  place : Place

/-- What is read of a text. The tokens are kept last one first, and so are the columns of the open
lists and maps; the possible keys are those of the open brackets, and one for the text around
them. -/
structure Scan where
  rest : Text
  place : Place
  emitted : List Token
  indents : List Nat
  keys : List (Option KeyPlace)
  keyAllowed : Bool

namespace Scan

/-- The longest key that needs no mark of its own, in characters. -/
def keyLimit : Nat := 1024

def start (text : Text) : Scan :=
  ⟨text, .start, [], [], [none], true⟩

def inFlow (scan : Scan) : Bool :=
  !scan.keys.tail.isEmpty

def emit (scan : Scan) (token : Token) : Scan :=
  { scan with emitted := token :: scan.emitted }

def emitBehind (scan : Scan) (count : Nat) (token : Token) : Scan :=
  let later := scan.emitted.length - count
  { scan with emitted := scan.emitted.take later ++ token :: scan.emitted.drop later }

def skip (scan : Scan) (count : Nat) : Scan :=
  { scan with rest := scan.rest.drop count, place := scan.place.forward count }

/-- Goes on to the next token: over blanks, comments and line breaks. A tab is no blank where a key may
stand. A mark for the order of bytes at the beginning of a line takes a column, but says
nothing. -/
def skipGap (flow allowed comment : Bool) (place : Place) : Text → Bool × Place × Text
  | [] => (allowed, place, [])
  | character :: rest =>
      if isBreak character then skipGap flow (allowed || !flow) false (place.advance character) rest
      else if place.column = 0 ∧ isByteOrderMark character then
        skipGap flow allowed comment (place.forward 1) rest
      else if comment || character == ' ' || character == '\t' && (flow || !allowed) then
        skipGap flow allowed comment (place.forward 1) rest
      else if character == '#' then skipGap flow allowed true (place.forward 1) rest
      else (allowed, place, character :: rest)

def toToken (scan : Scan) : Scan :=
  let (allowed, place, rest) := skipGap scan.inFlow scan.keyAllowed false scan.place scan.rest
  { scan with rest := rest, place := place, keyAllowed := allowed }

/-- A possible key is none any more on another line, or too far behind it. -/
def isStale (place : Place) (key : KeyPlace) : Bool :=
  key.place.line < place.line || key.place.index + keyLimit < place.index

/-- Forgets the possible keys that are none any more. -/
def expireKeys (scan : Scan) : Option Scan :=
  let expired := scan.keys.filterMap fun key? => key?.filter (isStale scan.place)
  if expired.any (·.required) then none
  else some { scan with keys := scan.keys.map fun key? => key?.filter (!isStale scan.place ·) }

/-- Forgets the possible key of the innermost brackets. -/
def dropKey (scan : Scan) : Option Scan :=
  if (scan.keys.head?.join).any (·.required) then none
  else some { scan with keys := none :: scan.keys.tail }

/-- Keeps a possible key in mind where one may stand. -/
def saveKey (scan : Scan) : Option Scan := do
  if scan.keyAllowed then
    let required := !scan.inFlow && scan.indents.head? = some scan.place.column
    let scan ← scan.dropKey
    let key : KeyPlace := ⟨required, scan.emitted.length, scan.place⟩
    return { scan with keys := some key :: scan.keys.tail }
  else return scan

/-- Opens a list or a map at a column behind a number of tokens, if it is further in than those that
are open. -/
def indentTo (scan : Scan) (column count : Nat) (token : Token) : Scan :=
  if !scan.inFlow && scan.indents.head?.all (· < column) then
    { scan.emitBehind count token with indents := column :: scan.indents }
  else scan

/-- Ends the lists and maps that are further in than a column. -/
def unindentTo (scan : Scan) (column : Nat) : Scan :=
  if scan.inFlow then scan
  else
    let ended := scan.indents.takeWhile (column < ·)
    { scan with
      emitted := List.replicate ended.length .blockEnd ++ scan.emitted
      indents := scan.indents.drop ended.length }

def unindentAll (scan : Scan) : Scan :=
  if scan.inFlow then scan
  else
    { scan with
      emitted := List.replicate scan.indents.length .blockEnd ++ scan.emitted
      indents := [] }

def takeMark (scan : Scan) (token : Token) : Scan :=
  (scan.emit token).skip 1

def takeDirective (scan : Scan) : Option Scan := do
  let scan ← scan.unindentAll.dropKey
  let (token, ended) ← Token.directive? scan.rest.tail
  let (place, rest) :=
    (scan.place.forward (scan.rest.length - ended.length)).pastBreak ended
  return { scan.emit token with rest := rest, place := place, keyAllowed := false }

def takeDocumentMark (scan : Scan) (mark : DocumentMark) : Option Scan := do
  let scan ← scan.unindentAll.dropKey
  return { (scan.emit (.document mark)).skip 3 with keyAllowed := false }

def openBracket (scan : Scan) (token : Token) : Option Scan := do
  let scan ← scan.saveKey
  return { scan.takeMark token with keys := none :: scan.keys, keyAllowed := true }

def closeBracket (scan : Scan) (token : Token) : Option Scan := do
  let scan ← scan.dropKey
  let keys := if scan.inFlow then scan.keys.tail else scan.keys
  return { scan.takeMark token with keys := keys, keyAllowed := false }

def takeComma (scan : Scan) : Option Scan := do
  return { (← scan.dropKey).takeMark .comma with keyAllowed := true }

def takeItem (scan : Scan) : Option Scan := do
  if !scan.inFlow && !scan.keyAllowed then none
  else
    let scan ← (scan.indentTo scan.place.column scan.emitted.length .listStart).dropKey
    return { scan.takeMark .item with keyAllowed := true }

def takeKey (scan : Scan) : Option Scan := do
  if !scan.inFlow && !scan.keyAllowed then none
  else
    let scan ← (scan.indentTo scan.place.column scan.emitted.length .mapStart).dropKey
    return { scan.takeMark .key with keyAllowed := !scan.inFlow }

def takeValue (scan : Scan) : Option Scan := do
  match scan.keys.head?.join with
  | some key =>
      let scan := (scan.emitBehind key.behind .key).indentTo key.place.column key.behind .mapStart
      return { scan.takeMark .value with keys := none :: scan.keys.tail, keyAllowed := false }
  | none =>
      if !scan.inFlow && !scan.keyAllowed then none
      else
        let scan := scan.indentTo scan.place.column scan.emitted.length .mapStart
        return { scan.takeMark .value with keyAllowed := !scan.inFlow }

/-- Reads a token that may begin a key, given what it is and the rest of the text in its line. -/
def takeWithin (scan : Scan) (read : Text → Option (Token × Text)) : Option Scan := do
  let scan ← scan.saveKey
  let (token, rest) ← read scan.rest
  let place := scan.place.forward (scan.rest.length - rest.length)
  return { scan.emit token with rest := rest, place := place, keyAllowed := false }

/-- Reads a scalar, given its style and what is read of it. -/
def takeScalar (scan : Scan) (style : ScalarStyle) (scanned : Scanned) (keyAllowed : Bool) : Scan :=
  { scan.emit (.scalar style scanned.content) with
    rest := scanned.rest
    place := scanned.place
    keyAllowed := keyAllowed }

def takeQuoted (scan : Scan) (double : Bool) : Option Scan := do
  let scan ← scan.saveKey
  let scanned ← quotedFrom double (scan.place.forward 1) [] .empty .content scan.rest.tail
  return scan.takeScalar (if double then .doubleQuoted else .singleQuoted) scanned false

def takeBlock (scan : Scan) (literal : Bool) : Option Scan := do
  let scan ← scan.dropKey
  let scanned ← block? literal scan.indents.head? (scan.place.forward 1) scan.rest.tail
  return scan.takeScalar (if literal then .literal else .folded) scanned true

def takePlain (scan : Scan) : Option Scan := do
  let scan ← scan.saveKey
  let margin := (scan.indents.head?.map (· + 1)).getD 0
  let (scanned, broken) ← plainFrom scan.inFlow margin scan.place [] .empty scan.rest
  return scan.takeScalar .plain scanned broken

/-- Characters that a plain scalar cannot start with. -/
def isIndicator (character : Char) : Bool :=
  isFlowMark character || "-?:#&*!|>'\"%@".toList.contains character || character == '\x60'

def startsPlain (flow : Bool) (character : Char) (rest : Text) : Bool :=
  !(isGap character || isIndicator character) ||
    character == '-' && !rest.head?.any isBlank ||
    !flow && (character == '?' || character == ':') && !startsGap rest

def takeToken (scan : Scan) (character : Char) (rest : Text) : Option Scan :=
  let flow := scan.inFlow
  let marks := flow || startsGap rest
  if character = '[' then scan.openBracket .openList
  else if character = '\x7b' then scan.openBracket .openMap
  else if character = ']' then scan.closeBracket .closeList
  else if character = '\x7d' then scan.closeBracket .closeMap
  else if character = ',' then scan.takeComma
  else if character = '-' ∧ startsGap rest then scan.takeItem
  else if character = '?' ∧ marks then scan.takeKey
  else if character = ':' ∧ marks then scan.takeValue
  else if character = '*' then
    scan.takeWithin fun text => (Token.name? text.tail).map fun found => (.alias found.1, found.2)
  else if character = '&' then
    scan.takeWithin fun text => (Token.name? text.tail).map fun found => (.anchor found.1, found.2)
  else if character = '!' then scan.takeWithin (Token.tag? flow)
  else if character = '|' ∧ !flow then scan.takeBlock true
  else if character = '>' ∧ !flow then scan.takeBlock false
  else if character = '\'' then scan.takeQuoted false
  else if character = '"' then scan.takeQuoted true
  else if startsPlain flow character rest then scan.takePlain
  else none

/-- Reads the next token. At the beginning of a line it may be a directive or a mark between
documents. -/
def next (scan : Scan) (character : Char) (rest : Text) : Option Scan :=
  if scan.place.column = 0 ∧ character = '%' then scan.takeDirective
  else match documentMark? (character :: rest) with
    | some mark =>
        if scan.place.column = 0 then scan.takeDocumentMark mark
        else scan.takeToken character rest
    | none => scan.takeToken character rest

/-- Reads up to a number of tokens; the text has to end before that. -/
def run : Nat → Scan → Option (List Token)
  | 0, _ => none
  | count + 1, scan => do
      let scan := scan.toToken
      let scan := (← scan.expireKeys).unindentTo scan.place.column
      match scan.rest with
      | [] => return (← scan.unindentAll.dropKey).emitted.reverse
      | character :: rest => run count (← scan.next character rest)

end Scan

/-- The tokens of a text. Each takes a character at least. -/
def tokens? (text : Text) : Option (List Token) :=
  if text.all isAllowed then
    let text := unifyBreaks text
    (Scan.start text).run (text.length + 1)
  else none

end RepeatScan.Yaml
