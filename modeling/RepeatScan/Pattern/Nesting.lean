set_option autoImplicit false

/-! How deep the parts of a pattern are nested. A pattern whose nesting is too deep is none. -/

namespace RepeatScan.Pattern

def depthLimit : Nat := 250

/-- Parts that stand side by side: how many there are, and how deep the deepest of them is. -/
structure Parts where
  count : Nat
  deepest : Nat
  deriving DecidableEq, Repr

namespace Parts

def empty : Parts := ⟨0, 0⟩

def add (parts : Parts) (depth : Nat) : Parts :=
  ⟨parts.count + 1, max parts.deepest depth⟩

/-- The depth of the parts together: several of them are one level more. -/
def depth (parts : Parts) : Nat :=
  if parts.count ≤ 1 then parts.deepest else parts.deepest + 1

/-- The depth of the parts joined with what stands before them, if anything does. -/
def depthBehind (parts : Parts) (earlier : Option Nat) : Nat :=
  match earlier with
  | none => parts.depth
  | some depth => max depth parts.depth + 1

end Parts

end RepeatScan.Pattern
