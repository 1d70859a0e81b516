import RepeatScan.Proofs.Span.Fold

set_option autoImplicit false

/-! Leaving out short lists of spans. A list that is moved right keeps its length, so all links of a
chain are as long as its head. Leaving out the lists below a length therefore takes whole chains away
and leaves the others as they were: it makes no difference whether it is done before or after the
fold. -/

namespace RepeatScan

namespace Span

variable {lists : List (List Span)} {threshold : Nat}

/-- The lists with a number of spans at least. -/
def atLeast (threshold : Nat) (lists : List (List Span)) : List (List Span) :=
  lists.filter fun spans => threshold ≤ spans.length

theorem mem_atLeast {spans : List Span} :
    spans ∈ atLeast threshold lists ↔ spans ∈ lists ∧ threshold ≤ spans.length := by
  unfold atLeast
  rw [List.mem_filter, decide_eq_true_eq]

theorem length_shiftAll (offset : Nat) (spans : List Span) :
    (shiftAll offset spans).length = spans.length :=
  List.length_map _

theorem Ordered.atLeast (ordered : Ordered lists) (threshold : Nat) :
    Ordered (Span.atLeast threshold lists) :=
  ⟨fun spans member => ordered.inhabited spans (mem_atLeast.mp member).1,
    ordered.increasing.filter _⟩

theorem continues_atLeast {spans : List Span} (long : threshold ≤ spans.length) :
    continues (atLeast threshold lists) spans = continues lists spans := by
  apply Bool.eq_iff_iff.mpr
  rw [continues_iff, continues_iff]
  constructor
  · intro found
    obtain ⟨earlier, member, moved⟩ := found
    exact ⟨earlier, (mem_atLeast.mp member).1, moved⟩
  · intro found
    obtain ⟨earlier, member, moved⟩ := found
    have same := congrArg List.length moved
    rw [length_shiftAll] at same
    exact ⟨earlier, mem_atLeast.mpr ⟨member, by omega⟩, moved⟩

theorem Ordered.reach_atLeast (ordered : Ordered lists) {spans : List Span}
    (member : spans ∈ lists) (long : threshold ≤ spans.length) :
    reach (Span.atLeast threshold lists) spans = reach lists spans := by
  apply (ordered.atLeast threshold).reach_eq (mem_atLeast.mpr ⟨member, long⟩)
  · intro offset positive within
    apply mem_atLeast.mpr
    rw [length_shiftAll]
    exact ⟨mem_of_le_reach positive within, long⟩
  · intro further
    exact ordered.not_mem_reach_succ member (mem_atLeast.mp further).1

end Span

namespace SpanGroup

variable {Key : Type} {groups : List (SpanGroup Key)}

/-- The groups with a number of spans at least. -/
def atLeast (threshold : Nat) (groups : List (SpanGroup Key)) : List (SpanGroup Key) :=
  groups.filter fun group => threshold ≤ group.spans.length

theorem mem_atLeast {group : SpanGroup Key} {threshold : Nat} :
    group ∈ atLeast threshold groups ↔ group ∈ groups ∧ threshold ≤ group.spans.length := by
  unfold atLeast
  rw [List.mem_filter, decide_eq_true_eq]

theorem lists_atLeast (threshold : Nat) (groups : List (SpanGroup Key)) :
    lists (atLeast threshold groups) = Span.atLeast threshold (lists groups) := by
  unfold lists atLeast Span.atLeast
  rw [List.filter_map]
  rfl

theorem length_extend (offset : Nat) (group : SpanGroup Key) :
    (group.extend offset).spans.length = group.spans.length :=
  List.length_map _

/-- The fold does with the long groups the same, whether the short ones are there or not. -/
theorem coalesce_atLeast (ordered : Span.Ordered (lists groups)) (threshold : Nat) :
    coalesce (atLeast threshold groups) = atLeast threshold (coalesce groups) := by
  have restricted : Span.Ordered (lists (atLeast threshold groups)) := by
    rw [lists_atLeast]
    exact ordered.atLeast threshold
  rw [coalesce_eq_survivors restricted, coalesce_eq_survivors ordered]
  unfold survivors
  rw [lists_atLeast, atLeast, atLeast, List.filter_map, List.filter_filter, List.filter_filter]
  have kept : (groups.filter fun group =>
      !Span.continues (Span.atLeast threshold (lists groups)) group.spans &&
        decide (threshold ≤ group.spans.length)) =
      groups.filter fun group =>
        decide (threshold ≤ (group.extend (Span.reach (lists groups) group.spans)).spans.length) &&
          !Span.continues (lists groups) group.spans := by
    apply List.filter_congr
    intro group _
    rw [length_extend, Bool.and_comm]
    by_cases long : threshold ≤ group.spans.length
    · rw [Span.continues_atLeast long]
    · rw [decide_eq_false long, Bool.false_and, Bool.false_and]
  rw [kept]
  apply List.map_congr_left
  intro group member
  obtain ⟨present, both⟩ := List.mem_filter.mp member
  have long := of_decide_eq_true (Bool.and_eq_true_iff.mp both).1
  rw [length_extend] at long
  rw [ordered.reach_atLeast (List.mem_map.mpr ⟨group, present, rfl⟩) long]

end SpanGroup

end RepeatScan
