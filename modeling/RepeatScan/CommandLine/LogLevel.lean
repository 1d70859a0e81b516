import RepeatScan.Pattern.Groups
import RepeatScan.Text.Pieces
import RepeatScan.Text.Scientific
import RepeatScan.Text.Utf8

set_option autoImplicit false

/-! How much a program logs. The level comes from directives, separated by commas, each of which names
a target, a span or a level; the most talkative directive decides. A directive may ask for the
value of a field, by a number or a pattern. -/

namespace RepeatScan.CommandLine

/-- Levels of logging, from silence to everything. -/
inductive LogLevel where
  | off
  | error
  | warn
  | info
  | debug
  | trace
  deriving DecidableEq, Repr

namespace LogLevel

def all : List LogLevel := [off, error, warn, info, debug, trace]

def name : LogLevel → Text
  | off => "off".toList
  | error => "error".toList
  | warn => "warn".toList
  | info => "info".toList
  | debug => "debug".toList
  | trace => "trace".toList

def rank (level : LogLevel) : Nat :=
  all.idxOf level

def louder (left right : LogLevel) : LogLevel :=
  if left.rank < right.rank then right else left

/-- The level that a text names, in small or capital letters, or by its position. -/
def named? (text : Text) : Option LogLevel :=
  match Text.natural? UInt64.size text with
  | some position => all[position]?
  | none => all.find? fun level => level.name == text.map Char.toLower

def ofVerbosity : Nat → LogLevel
  | 0 => warn
  | 1 => info
  | _ => debug

end LogLevel

/-- What a directive asks for: a level, and perhaps a look at the values of fields. -/
structure Directive where
  level : LogLevel
  readsValues : Bool
  deriving DecidableEq, Repr

namespace Directive

def trim (text : Text) : Text :=
  ((text.dropWhile Text.isBlank).reverse.dropWhile Text.isBlank).reverse

def startsTarget (character : Char) : Bool :=
  character == '-' || character == ':' || character == '_' || Text.isLetterOrNumeral character

/-- The level behind an equals sign; no text at all stands for everything. -/
def levelAfterEquals (text : Text) : Option LogLevel :=
  if text.isEmpty then some .trace else LogLevel.named? text

/-- A part of a directive that runs from behind a character to before another one. Its bytes are counted
in the text without blanks around it, but the part is taken out of the whole text. -/
def part (whole trimmed later : Text) (length : Nat) : Text :=
  Utf8.take length (Utf8.drop (Utf8.byteLength trimmed - Utf8.byteLength later) whole)

/-- The end of a directive behind a character, taken out of the whole text. -/
def ending (whole trimmed later : Text) : Text :=
  part whole trimmed later (Utf8.byteLength whole)

/-- Whether a text stands for a number, be it infinite or none at all. -/
def isNumber (text : Text) : Bool :=
  let word := Text.dropSign text
  (Text.scientific? word).isSome ||
    ["inf".toList, "infinity".toList, "nan".toList].contains (word.map Char.toLower)

/-- Whether a field asks for a value, which stands between its first two equals signs. A value has to be
a number or a pattern. -/
def asksValue? (field : Text) : Option Bool :=
  match Text.pieces '=' field with
  | _ :: value :: _ => if isNumber value || Pattern.isPattern value then some true else none
  | _ => some false

def ofTail (whole trimmed : Text) (readsValues : Bool) : Text → Option Directive
  | [] => some ⟨.trace, readsValues⟩
  | '=' :: later => (levelAfterEquals (ending whole trimmed later)).map (⟨·, readsValues⟩)
  | _ => none

/-- A directive from its span on: a name, perhaps with a field in braces. -/
def ofSpan (whole trimmed span : Text) : Option Directive :=
  match span.dropWhile fun character => character != ']' && character != '\x7b' with
  | [] => none
  | ']' :: later => ofTail whole trimmed false later
  | _ :: field => do
      let name := field.takeWhile (· != '\x7d')
      match field.drop name.length with
      | '\x7d' :: ']' :: later =>
          if name.isEmpty then none
          else
            let readsValues ← asksValue? (part whole trimmed field (Utf8.byteLength name))
            ofTail whole trimmed readsValues later
      | _ => none

/-- The directive that a text stands for. A word that names no level is a target, of which everything
is logged. -/
def ofText (whole : Text) : Option Directive :=
  let trimmed := trim whole
  match trimmed with
  | [] => none
  | '[' :: span => ofSpan whole trimmed span
  | first :: _ =>
      if !startsTarget first then none
      else match trimmed.dropWhile fun character => character != '=' && character != '[' with
        | [] => some ⟨(LogLevel.named? whole).getD .trace, false⟩
        | '[' :: span => ofSpan whole trimmed span
        | _ :: later =>
            (levelAfterEquals (ending whole trimmed later)).map (⟨·, false⟩)

end Directive

/-- The level of directives, or the one for a verbosity if no directive can be understood. -/
def LogLevel.ofDirectives (verbosity : Nat) (text : Text) : LogLevel :=
  match ((Text.pieces ',' text).filter (!·.isEmpty)).filterMap Directive.ofText with
  | [] => .ofVerbosity verbosity
  | directives =>
      if directives.any (·.readsValues) then .trace
      else (directives.map (·.level)).foldl .louder .off

end RepeatScan.CommandLine
