import RepeatScan.Text.Decimal
import RepeatScan.Text.Hex

set_option autoImplicit false

/-! JSON values and their two written forms: without any blanks, and with one member or item on each
line, two blanks deeper than what holds it. -/

namespace RepeatScan.Json

/-- A value without fractions or signs; members keep their order. -/
inductive Value where
  | null
  | bool (value : Bool)
  | number (value : Nat)
  | string (content : Text)
  | array (items : List Value)
  | object (members : List (Text × Value))

def escape (character : Char) : Text :=
  if character = '"' then ['\\', '"']
  else if character = '\\' then ['\\', '\\']
  else if character = '\n' then ['\\', 'n']
  else if character = '\r' then ['\\', 'r']
  else if character = '\t' then ['\\', 't']
  else if character.toNat = 0x08 then ['\\', 'b']
  else if character.toNat = 0x0C then ['\\', 'f']
  else if character.toNat < 0x20 then ['\\', 'u'] ++ Text.hexDigits 4 character.toNat
  else [character]

def quote (content : Text) : Text :=
  ['"'] ++ content.flatMap escape ++ ['"']

def boolWord (value : Bool) : Text :=
  if value then "true".toList else "false".toList

namespace Value

mutual

def compact : Value → Text
  | null => "null".toList
  | bool value => boolWord value
  | number value => Text.decimal value
  | string content => quote content
  | array items => ['['] ++ [','].intercalate (compactItems items) ++ [']']
  | object members => ['{'] ++ [','].intercalate (compactMembers members) ++ ['}']

def compactItems : List Value → List Text
  | [] => []
  | item :: later => compact item :: compactItems later

def compactMembers : List (Text × Value) → List Text
  | [] => []
  | (name, value) :: later => (quote name ++ [':'] ++ compact value) :: compactMembers later

end

def newLine (depth : Nat) : Text :=
  '\n' :: List.replicate (2 * depth) ' '

/-- Parts on lines of their own between two brackets, or just the brackets. -/
def spread (opening closing : Char) (depth : Nat) (parts : List Text) : Text :=
  if parts.isEmpty then [opening, closing]
  else [opening] ++ newLine (depth + 1) ++ (',' :: newLine (depth + 1)).intercalate parts ++
    newLine depth ++ [closing]

mutual

/-- The form with lines, inside values of the given depth. -/
def prettyAt (depth : Nat) : Value → Text
  | null => "null".toList
  | bool value => boolWord value
  | number value => Text.decimal value
  | string content => quote content
  | array items => spread '[' ']' depth (prettyItems (depth + 1) items)
  | object members => spread '{' '}' depth (prettyMembers (depth + 1) members)

def prettyItems (depth : Nat) : List Value → List Text
  | [] => []
  | item :: later => prettyAt depth item :: prettyItems depth later

def prettyMembers (depth : Nat) : List (Text × Value) → List Text
  | [] => []
  | (name, value) :: later =>
      (quote name ++ [':', ' '] ++ prettyAt depth value) :: prettyMembers depth later

end

def pretty (value : Value) : Text :=
  prettyAt 0 value

end Value

end RepeatScan.Json
