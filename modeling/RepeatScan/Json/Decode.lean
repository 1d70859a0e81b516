import RepeatScan.Fingerprint
import RepeatScan.Json.Magnitude
import RepeatScan.Json.Node

set_option autoImplicit false

/-! Reading typed values from JSON trees. What is wrong is reported in the order of the text: a value
of the wrong shape goes before a text that breaks off behind it. A record may be written as an
object or as the array of its fields. -/

namespace RepeatScan.Json

/-- Why no value can be read: the text ends too early, it is no JSON, or it has the wrong shape. -/
inductive ReadError where
  | early
  | wrong
  | mismatch
  deriving DecidableEq, Repr

def Cause.error : Cause → ReadError
  | .early => .early
  | .wrong => .wrong

namespace Node

/-- The error at a value of the wrong shape. Simple values are read before their shape counts. -/
def mismatch : Node → ReadError
  | .broken cause => cause.strict.error
  | .string none => .wrong
  | .number numeral => if numeral.isHuge then .wrong else .mismatch
  | _ => .mismatch

def checkEnding (ending : Option Break) : Except ReadError Unit :=
  match ending with
  | none => .ok ()
  | some cause => .error cause.strict.error

def skip : Node → Except ReadError Unit
  | .broken cause => .error cause.lenient.error
  | .array _ (some cause) => .error cause.lenient.error
  | .object _ (some cause) => .error cause.lenient.error
  | _ => .ok ()

def readBool : Node → Except ReadError Bool
  | .bool value => .ok value
  | node => .error node.mismatch

def readNat (limit : Nat) (node : Node) : Except ReadError Nat :=
  match node with
  | .number numeral =>
      match numeral.natural? with
      | some value => if value < limit then .ok value else .error .mismatch
      | none => .error node.mismatch
  | _ => .error node.mismatch

def readText : Node → Except ReadError Text
  | .string (some content) => .ok content
  | node => .error node.mismatch

def readFingerprint (node : Node) : Except ReadError Fingerprint := do
  (Fingerprint.ofText (← node.readText)).mapError fun _ => .mismatch

def readOption {α : Type} (read : Node → Except ReadError α) : Node → Except ReadError (Option α)
  | .null => .ok none
  | node => (read node).map some

def readList {α : Type} (read : Node → Except ReadError α) : Node → Except ReadError (List α)
  | .array items ending => do
      let values ← items.mapM read
      checkEnding ending
      return values
  | node => .error node.mismatch

end Node

/-- A field of a record and how it is read into it. -/
structure Field (α : Type) where
  name : Text
  read : Node → α → Except ReadError α

/-- How a record may be written: whether other names are refused, whether an object has to name every
field, and whether an array has to list every field. -/
structure RecordRule where
  closed : Bool
  allNamed : Bool
  allListed : Bool

namespace Node

/-- Reads the members of an object into a record, knowing the names that came before. -/
def readMembers {α : Type} (rule : RecordRule) (fields : List (Field α)) :
    List (Option Text × Node) → List Text → α → Except ReadError (List Text × α)
  | [], given, value => .ok (given, value)
  | (none, _) :: _, _, _ => .error .wrong
  | (some name, node) :: later, given, value =>
      match fields.find? (·.name = name) with
      | some field => do
          if name ∈ given then throw .mismatch
          readMembers rule fields later (name :: given) (← field.read node value)
      | none => do
          if rule.closed then throw .mismatch
          node.skip
          readMembers rule fields later given value

/-- Reads the items of an array into the fields of a record in turn. -/
def readItems {α : Type} (rule : RecordRule) (ending : Option Break) :
    List (Field α) → List Node → α → Except ReadError α
  | [], [], value => do
      checkEnding ending
      return value
  | [], _ :: _, _ => .error .wrong
  | _ :: _, [], value => do
      checkEnding ending
      if rule.allListed then throw .mismatch
      return value
  | field :: fields, node :: nodes, value => do
      readItems rule ending fields nodes (← field.read node value)

/-- Reads a record, starting from the values of fields that are not given. -/
def readRecord {α : Type} (rule : RecordRule) (fields : List (Field α)) (start : α) :
    Node → Except ReadError α
  | .object members ending => do
      let (given, value) ← readMembers rule fields members [] start
      checkEnding ending
      if rule.allNamed && !fields.all (·.name ∈ given) then throw .mismatch
      return value
  | .array items ending => readItems rule ending fields items start
  | node => .error node.mismatch

end Node

/-- Reads a whole text: nothing but blanks may follow the value. -/
def decode {α : Type} (read : Node → Except ReadError α) (text : Text) : Except ReadError α := do
  let (node, later) := Node.ofText text
  let value ← read node
  if !later.isEmpty then throw .wrong
  return value

end RepeatScan.Json
