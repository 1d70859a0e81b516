import RepeatScan.Text.Hex
import RepeatScan.Text.Magnitude
import RepeatScan.Text.Scientific

set_option autoImplicit false

/-! YAML nodes, and what the words of plain scalars stand for. -/

namespace RepeatScan.Yaml

/-- How a scalar is written. -/
inductive ScalarStyle where
  | plain
  | singleQuoted
  | doubleQuoted
  | literal
  | folded
  deriving DecidableEq, Repr

/-- A scalar, a list or a map. A scalar may say by a tag what it is. -/
inductive Node where
  | scalar (tag : Option Text) (style : ScalarStyle) (content : Text)
  | sequence (items : List Node)
  | mapping (entries : List (Node × Node))

def Node.void : Node := .scalar none .plain []

def isNullWord (word : Text) : Bool :=
  ["null".toList, "Null".toList, "NULL".toList, ['~']].contains word

def truth? (word : Text) : Option Bool :=
  if ["true".toList, "True".toList, "TRUE".toList].contains word then some true
  else if ["false".toList, "False".toList, "FALSE".toList].contains word then some false
  else none

/-- Several digits of which the first is zero; they are no number. -/
def isPadded (word : Text) : Bool :=
  match Text.dropSign word with
  | '0' :: digit :: digits => (digit :: digits).all Char.isDigit
  | _ => false

/-- The natural number that digits stand for, in decimal or behind the mark of another base. -/
def baseNumber? : Text → Option Nat
  | '0' :: 'x' :: digits => Text.inBase? 16 digits
  | '0' :: 'o' :: digits => Text.inBase? 8 digits
  | '0' :: 'b' :: digits => Text.inBase? 2 digits
  | digits => if isPadded digits then none else Text.inBase? 10 digits

def natural? (word : Text) : Option Nat :=
  baseNumber? (Text.dropPlus word)

/-- The size of the negative number that a word stands for. -/
def negative? : Text → Option Nat
  | '-' :: digits => baseNumber? digits
  | _ => none

/-- Whether a word is an integer of 128 bits, with or without sign. -/
def isInteger (word : Text) : Bool :=
  (natural? word).any (· < 1 <<< 128) || (negative? word).any (· ≤ 1 <<< 127)

/-- Whether a word without sign is a decimal number that floating-point numbers reach. -/
def isDecimal (word : Text) : Bool :=
  (Text.scientific? word).any fun number =>
    !Text.isBeyondFloats number.significand number.power

def isInfinityWord (word : Text) : Bool :=
  [".inf".toList, ".Inf".toList, ".INF".toList].contains word

def isNanWord (word : Text) : Bool :=
  [".nan".toList, ".NaN".toList, ".NAN".toList].contains word

def isFloat (word : Text) : Bool :=
  isInfinityWord (Text.dropSign word) || isNanWord word || isDecimal (Text.dropSign word)

/-- Whether a plain scalar would not be read as a text, or might not be. -/
def isAmbiguous (word : Text) : Bool :=
  word.isEmpty || isNullWord word || (truth? word).isSome || isInteger word || isPadded word ||
    isFloat word

end RepeatScan.Yaml
