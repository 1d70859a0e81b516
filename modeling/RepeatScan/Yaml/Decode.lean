import RepeatScan.Yaml.Node

set_option autoImplicit false

/-! Reading typed values from YAML nodes. A text may be written in any way, but a number or a truth
value has to be plain, or a literal block that is tagged as one. Nothing at all reads as an absent
value, and else as a list or a record that is empty. -/

namespace RepeatScan.Yaml

def coreTag (name : String) : Text :=
  "tag:yaml.org,2002:".toList ++ name.toList

namespace Node

def isVoid : Node → Bool
  | .scalar _ .plain [] => true
  | _ => false

def word? (typeName : String) : Node → Option Text
  | .scalar _ .plain content => some content
  | .scalar (some tag) .literal content => if tag = coreTag typeName then some content else none
  | _ => none

def readNat (limit : Nat) (node : Node) : Option Nat :=
  ((node.word? "int").bind natural?).filter (· < limit)

def readBool (node : Node) : Option Bool :=
  (node.word? "bool").bind truth?

def readText : Node → Option Text
  | .scalar _ _ content => some content
  | _ => none

/-- Reads a value that may be absent. A plain scalar that is tagged as nothing has to be a word for
it. -/
def readOption {α : Type} (read : Node → Option α) (node : Node) : Option (Option α) :=
  match node with
  | .scalar none .plain content =>
      if content.isEmpty || isNullWord content then some none else (read node).map some
  | .scalar (some tag) .plain content =>
      if tag = coreTag "null" then if isNullWord content then some none else none
      else (read node).map some
  | _ => (read node).map some

def readList {α : Type} (read : Node → Option α) (node : Node) : Option (List α) :=
  match node with
  | .sequence items => items.mapM read
  | _ => if node.isVoid then some [] else none

end Node

/-- A field of a record and how it is read into it. -/
structure Field (α : Type) where
  name : Text
  read : Node → α → Option α

def optionalField {α β : Type} (name : String) (read : Node → Option β)
    (set : α → Option β → α) : Field α :=
  ⟨name.toList, fun node value => (node.readOption read).map (set value)⟩

namespace Node

/-- Reads the entries of a map into a record, knowing the names that came before. -/
def readEntries {α : Type} (fields : List (Field α)) :
    List (Node × Node) → List Text → α → Option α
  | [], _, value => some value
  | (key, node) :: later, given, value => do
      let name ← key.readText
      let field ← fields.find? (·.name = name)
      if name ∈ given then none
      else readEntries fields later (name :: given) (← field.read node value)

/-- Reads a record of which every field may be left out and no other names are allowed. -/
def readRecord {α : Type} (fields : List (Field α)) (start : α) (node : Node) : Option α :=
  match node with
  | .mapping entries => readEntries fields entries [] start
  | _ => if node.isVoid then some start else none

end Node

end RepeatScan.Yaml
