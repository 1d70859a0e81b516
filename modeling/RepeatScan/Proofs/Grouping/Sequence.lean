import RepeatScan.Proofs.Grouping.Origins
import RepeatScan.Proofs.Span.Origin

set_option autoImplicit false

/-! The sequence of the groups. Whatever the options are, the spans of a group start with windows of
one part, no window belongs to two parts, and the groups are ordered by their first windows. So all
starts of a report are different, and they increase within each group and from group to group. -/

namespace RepeatScan.Grouping

variable {size : Nat} {sources : List ScannedSource} {options : GroupingOptions}

theorem origins_spans_sublist (options : GroupingOptions) (windows : List Window) :
    ((spans options windows).map Span.origin).Sublist (windows.map Window.origin) := by
  cases chosen : options.mergeOverlaps with
  | true =>
      rw [spans_of_merge chosen]
      exact Span.origins_merge_sublist windows
  | false =>
      rw [spans_of_separate chosen, Span.origins_separate]

namespace Enumerated

variable (enumerated : Enumerated size sources)

include enumerated

theorem pairwise_before_of_isPart {windows : List Window}
    (isPart : IsPart sources options (tally size sources).buckets windows) :
    windows.Pairwise Window.Before := by
  refine Window.pairwise_before ?_ (orderly_of_isPart isPart)
  obtain ⟨bucket, present, part, inside, rfl⟩ := isPart
  have distinct := (List.nodup_flatMap.mp enumerated.nodup_windows_buckets).1 bucket present
  exact (sublist_of_mem_parts inside).nodup distinct

theorem rising_of_mem_lists {found : List Span}
    (member : found ∈ SpanGroup.lists (orderedGroups sources options (tally size sources).buckets)) :
    found.Pairwise Span.Before := by
  obtain ⟨windows, isPart, rfl⟩ := exists_isPart member
  apply @Span.pairwise_before_of_origins size windows
  · intro window present
    exact size_of_mem_windowsOf (enumerated.mem_windowsOf_of_isPart isPart present)
  · exact enumerated.pairwise_before_of_isPart isPart
  · exact origins_spans_sublist options windows

/-- Groups that have a start in common are the same. -/
theorem eq_of_origin_eq {found other : List Span}
    (foundMember :
      found ∈ SpanGroup.lists (orderedGroups sources options (tally size sources).buckets))
    (otherMember :
      other ∈ SpanGroup.lists (orderedGroups sources options (tally size sources).buckets))
    {left right : Span} (leftMember : left ∈ found) (rightMember : right ∈ other)
    (same : left.origin = right.origin) : found = other := by
  obtain ⟨windows, isPart, rfl⟩ := exists_isPart foundMember
  obtain ⟨others, otherPart, rfl⟩ := exists_isPart otherMember
  obtain ⟨first, firstMember, firstSource, firstStart⟩ := (spanned_of_mem_spans leftMember).first
  obtain ⟨second, secondMember, secondSource, secondStart⟩ :=
    (spanned_of_mem_spans rightMember).first
  have firstSize := size_of_mem_windowsOf (enumerated.mem_windowsOf_of_isPart isPart firstMember)
  have secondSize := size_of_mem_windowsOf (enumerated.mem_windowsOf_of_isPart otherPart secondMember)
  obtain ⟨sameSource, sameStart⟩ := Prod.mk.inj same
  have shared : first = second := by
    cases first
    cases second
    simp only [Window.mk.injEq] at *
    omega
  rw [enumerated.isPart_unique isPart otherPart firstMember (shared ▸ secondMember)]

theorem sequenced_orderedGroups :
    Span.Sequenced (SpanGroup.lists
      (orderedGroups sources options (tally size sources).buckets)) where
  toOrdered := enumerated.lists_orderedGroups_ordered
  rising := fun _ member => enumerated.rising_of_mem_lists member
  distinct := by
    rw [List.map_flatten]
    apply List.nodup_flatten.mpr
    constructor
    · intro starts listed
      obtain ⟨found, member, rfl⟩ := List.mem_map.mp listed
      refine List.pairwise_map.mpr ((enumerated.rising_of_mem_lists member).imp ?_)
      intro left right before same
      obtain ⟨sameSource, sameStart⟩ := Prod.mk.inj same
      unfold Span.Before at before
      omega
    · apply List.pairwise_map.mpr
      refine enumerated.lists_orderedGroups_ordered.increasing.imp_of_mem ?_
      intro found other foundMember otherMember leads start leftStart rightStart
      obtain ⟨left, leftMember, rfl⟩ := List.mem_map.mp leftStart
      obtain ⟨right, rightMember, same⟩ := List.mem_map.mp rightStart
      obtain rfl :=
        enumerated.eq_of_origin_eq foundMember otherMember leftMember rightMember same.symm
      exact Span.Leads.irrefl found leads

/-- The spans that are reported start in order and never twice at the same place. -/
theorem sequenced_spanGroups :
    Span.Sequenced (SpanGroup.lists
      (spanGroups sources options (tally size sources).buckets)) := by
  rw [enumerated.lists_spanGroups]
  by_cases merging : options.mergeOverlaps = true
  · rw [if_pos merging]
    exact enumerated.sequenced_orderedGroups.grownHeads
  · rw [if_neg merging]
    exact enumerated.sequenced_orderedGroups

end Enumerated

end RepeatScan.Grouping
