import RepeatScan.Span

set_option autoImplicit false

/-! Folding of shifted groups. A region longer than a window shows up as one group of spans for each
offset, each the one before moved right by a token. Such groups are folded into the first of them,
whose spans grow by one token for each. -/

namespace RepeatScan

/-- Spans that belong together, under a key. -/
structure SpanGroup (Key : Type) where
  key : Key
  spans : List Span
  deriving DecidableEq, Repr

namespace SpanGroup

variable {Key : Type}

def shifted (offset : Nat) (group : SpanGroup Key) : List Span :=
  group.spans.map (Span.shift offset)

/-- The group with all its spans grown at the end. -/
def extend (offset : Nat) (group : SpanGroup Key) : SpanGroup Key :=
  { group with spans := group.spans.map (Span.extend offset) }

def lastPosition? (groups : List (SpanGroup Key)) (spans : List Span) : Option Nat :=
  (groups.zipIdx.reverse.find? fun entry => entry.1.spans == spans).map (·.2)

/-- Follows the shifts of a head from an offset on, as long as each is the list of spans of a group
that is still free and not the head. Gives the groups that stay free and the offset reached. -/
def follow (groups : List (SpanGroup Key)) (head : Nat) (group : SpanGroup Key) (free : List Nat)
    (offset : Nat) : List Nat × Nat :=
  match lastPosition? groups (group.shifted (offset + 1)) with
  | none => (free, offset)
  | some position =>
      if position ≠ head ∧ position ∈ free then
        follow groups head group (free.erase position) (offset + 1)
      else (free, offset)
termination_by free.length
decreasing_by
  rename_i absorbed
  have shorter := List.length_erase_of_mem absorbed.2
  have nonempty := List.length_pos_of_mem absorbed.2
  omega

/-- Follows each group in turn that is still free when its turn comes. Gives the groups that are free
in the end and the growth of each head. -/
def followAll (groups : List (SpanGroup Key)) :
    List Nat → List (SpanGroup Key × Nat) → List Nat × List (Nat × Nat)
  | free, [] => (free, [])
  | free, (group, head) :: later =>
      if head ∈ free then
        let (rest, offset) := follow groups head group free 0
        let (last, growths) := followAll groups rest later
        (last, (head, offset) :: growths)
      else followAll groups free later

/-- Folds the groups that repeat an earlier one moved right into it, and keeps the order of the
others. -/
def coalesce (groups : List (SpanGroup Key)) : List (SpanGroup Key) :=
  let (free, growths) := followAll groups (List.range groups.length) groups.zipIdx
  groups.zipIdx.filterMap fun (group, position) =>
    if position ∈ free then some (group.extend ((growths.lookup position).getD 0)) else none

end SpanGroup

end RepeatScan
