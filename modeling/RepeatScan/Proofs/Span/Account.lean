import Mathlib.Data.List.Nodup
import RepeatScan.Proofs.Span.Fold

set_option autoImplicit false

/-! What is folded into what. A group is folded into the head whose turn takes it away from the free
ones. The groups folded into a head are its shifts up to the reach of its chain, so the number of them
is the growth of the head. -/

namespace RepeatScan.SpanGroup

open RepeatScan.Span (Head Ordered continues extendAll reach shiftAll)

variable {Key : Type} {groups : List (SpanGroup Key)}

/-- The free positions when the turn of a position comes. -/
def freeAt (groups : List (SpanGroup Key)) (turn : Nat) : List Nat :=
  (followAll groups (List.range groups.length) (groups.take turn).zipIdx).1

/-- The positions of the groups that are folded into the one at a position: they are free when its turn
comes and no longer when it is over. -/
def foldedInto (groups : List (SpanGroup Key)) (position : Nat) : List Nat :=
  (freeAt groups position).filter fun other => other ∉ freeAt groups (position + 1)

/-- What the fold leaves, each group with the positions of those that were folded into it. -/
def account (groups : List (SpanGroup Key)) : List (SpanGroup Key × List Nat) :=
  let (free, growths) := followAll groups (List.range groups.length) groups.zipIdx
  groups.zipIdx.filterMap fun (group, position) =>
    if position ∈ free then
      some (group.extend ((growths.lookup position).getD 0), foldedInto groups position)
    else none

theorem map_fst_account (groups : List (SpanGroup Key)) :
    (account groups).map (·.1) = coalesce groups := by
  unfold account coalesce
  rw [List.map_filterMap]
  apply List.filterMap_congr
  intro entry _
  dsimp only
  split
  · rfl
  · rfl

theorem freeBefore_freeAt (ordered : Ordered (lists groups)) {turn : Nat}
    (within : turn ≤ groups.length) : FreeBefore groups turn (freeAt groups turn) := by
  have state := (followAll_eq ordered (groups.take turn) 0 (List.take_prefix turn groups) _
    (freeBefore_zero groups)).1
  rwa [Nat.zero_add, List.length_take_of_le within] at state

/-- Folded into a head are its shifts, up to the reach of its chain. -/
theorem mem_foldedInto (ordered : Ordered (lists groups)) {head : List Span} {position other : Nat}
    (atPosition : HeadAt groups head position) :
    other ∈ foldedInto groups position ↔ ∃ offset, 0 < offset ∧ offset ≤ reach (lists groups) head ∧
      (lists groups)[other]? = some (shiftAll offset head) := by
  have bound := lt_length_of_stands atPosition.stands
  unfold foldedInto
  rw [List.mem_filter, decide_eq_true_eq, (freeBefore_freeAt ordered (Nat.le_of_lt bound)).members,
    (freeBefore_freeAt ordered bound).members, absorbedBefore_succ_iff atPosition]
  constructor
  · intro listed
    obtain ⟨⟨inside, free⟩, taken⟩ := listed
    by_contra absent
    exact taken ⟨inside, fun absorbed => absorbed.elim free absent⟩
  · intro shift
    obtain ⟨offset, positive, within, link⟩ := shift
    exact ⟨⟨lt_length_of_stands link, atPosition.not_absorbedBefore_link ordered within link⟩,
      fun free => free.2 (Or.inr ⟨offset, positive, within, link⟩)⟩

/-- As many groups are folded into a head as its chain reaches. -/
theorem length_foldedInto (ordered : Ordered (lists groups)) {head : List Span} {position : Nat}
    (atPosition : HeadAt groups head position) :
    (foldedInto groups position).length = reach (lists groups) head := by
  have bound := lt_length_of_stands atPosition.stands
  have distinct : (foldedInto groups position).Nodup :=
    (freeBefore_freeAt ordered (Nat.le_of_lt bound)).distinct.filter _
  have left : ((foldedInto groups position).map fun other => (lists groups)[other]?).Nodup := by
    refine List.Nodup.map_on ?_ distinct
    intro first firstMember second _ same
    obtain ⟨offset, _, _, stands⟩ := (mem_foldedInto ordered atPosition).mp firstMember
    exact ordered.position_unique stands (same.symm.trans stands)
  have right : ((List.range (reach (lists groups) head)).map fun before =>
      some (shiftAll (before + 1) head)).Nodup := by
    refine List.Nodup.map ?_ List.nodup_range
    intro first second same
    exact Nat.succ.inj (Span.offset_eq_of_shiftAll (ordered.inhabited_at atPosition.stands)
      (Option.some.inj same))
  have paired : ((foldedInto groups position).map fun other => (lists groups)[other]?).Perm
      ((List.range (reach (lists groups) head)).map fun before =>
        some (shiftAll (before + 1) head)) := by
    apply (List.perm_ext_iff_of_nodup left right).mpr
    intro found
    rw [List.mem_map, List.mem_map]
    constructor
    · intro absorbed
      obtain ⟨other, member, rfl⟩ := absorbed
      obtain ⟨offset, positive, within, stands⟩ := (mem_foldedInto ordered atPosition).mp member
      obtain ⟨before, rfl⟩ : ∃ before, offset = before + 1 := ⟨offset - 1, by omega⟩
      exact ⟨before, List.mem_range.mpr within, stands.symm⟩
    · intro reached
      obtain ⟨before, member, rfl⟩ := reached
      have within := List.mem_range.mp member
      obtain ⟨other, stands⟩ := List.mem_iff_getElem?.mp (atPosition.head.mem_link within)
      exact ⟨other, (mem_foldedInto ordered atPosition).mpr
        ⟨before + 1, Nat.succ_pos before, within, stands⟩, stands⟩
  have lengths := paired.length_eq
  rwa [List.length_map, List.length_map, List.length_range] at lengths

/-- The fold leaves the heads, each grown by the number of groups that were folded into it. -/
theorem spans_account (ordered : Ordered (lists groups)) :
    (account groups).map (fun entry => (entry.1.spans, entry.2.length)) =
      ((lists groups).filter fun spans => !continues (lists groups) spans).map fun spans =>
        (extendAll (reach (lists groups) spans) spans, reach (lists groups) spans) := by
  have heads : ((lists groups).filter fun spans => !continues (lists groups) spans) =
      (groups.filter fun group => !continues (lists groups) group.spans).map (·.spans) :=
    List.filter_map
  rw [heads, account, List.map_filterMap, List.map_map]
  apply filterMap_zipIdx
  intro group position found
  obtain ⟨kept, growth⟩ := followAll_range ordered found
  dsimp only [Function.comp_apply]
  cases starts : continues (lists groups) group.spans with
  | true =>
      have taken : position ∉ (followAll groups (List.range groups.length) groups.zipIdx).1 := by
        rw [kept, starts]
        exact Bool.noConfusion
      rw [if_neg taken]
      rfl
  | false =>
      have count := length_foldedInto ordered ⟨lists_getElem? found, starts⟩
      rw [if_pos (kept.mpr starts), growth starts, Option.map_some, count]
      rfl

/-- Every group that the fold leaves is a head, grown by the number of groups folded into it. -/
theorem head_of_mem_account (ordered : Ordered (lists groups))
    {entry : SpanGroup Key × List Nat} (member : entry ∈ account groups) :
    ∃ head, Head (lists groups) head ∧ entry.2.length = reach (lists groups) head ∧
      entry.1.spans = extendAll entry.2.length head := by
  have listed := List.mem_map_of_mem (f := fun entry => (entry.1.spans, entry.2.length)) member
  rw [spans_account ordered] at listed
  obtain ⟨head, present, same⟩ := List.mem_map.mp listed
  obtain ⟨kept, starts⟩ := List.mem_filter.mp present
  obtain ⟨spans, count⟩ := Prod.mk.inj same
  exact ⟨head, ⟨kept, by simpa using starts⟩, count.symm, by rw [← spans, ← count]⟩

end RepeatScan.SpanGroup
