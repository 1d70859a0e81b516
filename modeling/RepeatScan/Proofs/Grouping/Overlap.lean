import RepeatScan.Proofs.Grouping.Origins
import RepeatScan.Proofs.Span.Account

set_option autoImplicit false

/-! How far the spans of a merged group overlap. Merging leaves a gap between the spans of one source,
but folding grows every span at its end and does not look at the next one. A chain that reached past
the gap and a whole window would come back to a window of its own head, so what overlaps is always less
than a window. -/

namespace RepeatScan.Grouping

open RepeatScan.Span (Head reach shiftAll)

variable {size : Nat} {sources : List ScannedSource} {options : GroupingOptions}

/-- Before the fold, the spans of a group in one source have a gap between any two. -/
theorem apart_of_mem_lists (merging : options.mergeOverlaps = true) {found : List Span}
    (member : found ∈ SpanGroup.lists (orderedGroups sources options (tally size sources).buckets)) :
    found.Pairwise Span.Apart := by
  obtain ⟨windows, isPart, rfl⟩ := exists_isPart member
  rw [spans_of_merge merging]
  exact Span.apart_merge (orderly_of_isPart isPart).sorted

namespace Enumerated

variable (enumerated : Enumerated size sources)

include enumerated

/-- A group whose spans move to the window at which another one starts is that other group. -/
theorem eq_of_start_eq_last {found other : List Span}
    (foundMember :
      found ∈ SpanGroup.lists (orderedGroups sources options (tally size sources).buckets))
    (otherMember :
      other ∈ SpanGroup.lists (orderedGroups sources options (tally size sources).buckets))
    {left right : Span} (leftMember : left ∈ found) (rightMember : right ∈ other)
    (same : left.source = right.source) (meets : left.stop = right.start + size) :
    found = other := by
  obtain ⟨windows, isPart, rfl⟩ := exists_isPart foundMember
  obtain ⟨others, otherPart, rfl⟩ := exists_isPart otherMember
  obtain ⟨last, lastMember, lastSource, stop⟩ := (spanned_of_mem_spans leftMember).last
  obtain ⟨first, firstMember, firstSource, start⟩ := (spanned_of_mem_spans rightMember).first
  have lastSize := size_of_mem_windowsOf (enumerated.mem_windowsOf_of_isPart isPart lastMember)
  have firstSize := size_of_mem_windowsOf (enumerated.mem_windowsOf_of_isPart otherPart firstMember)
  have shared : last = first := by
    cases last
    cases first
    simp only [Window.stop, Window.mk.injEq] at *
    omega
  rw [enumerated.isPart_unique isPart otherPart lastMember (shared ▸ firstMember)]

/-- However far the chain of a head reaches, its spans stop short of the last token of the first window
of a span that comes later in the same source. -/
theorem stop_lt_of_head {head : List Span}
    (heads : Head (SpanGroup.lists (orderedGroups sources options (tally size sources).buckets)) head)
    {left right : Span} (leftMember : left ∈ head) (rightMember : right ∈ head)
    (same : left.source = right.source) (apart : left.stop < right.start) :
    left.stop + reach (SpanGroup.lists (orderedGroups sources options
      (tally size sources).buckets)) head < right.start + size := by
  by_contra far
  -- The link that moves the last window of the earlier span on to the start of the later one.
  obtain ⟨offset, meets⟩ : ∃ offset, left.stop + offset = right.start + size :=
    ⟨right.start + size - left.stop, by omega⟩
  have within : offset ≤ reach (SpanGroup.lists (orderedGroups sources options
      (tally size sources).buckets)) head := by omega
  have returned : shiftAll offset head = head :=
    enumerated.eq_of_start_eq_last (heads.mem_link within) heads.member
      (List.mem_map.mpr ⟨left, leftMember, rfl⟩) rightMember same meets
  rw [← Span.shiftAll_zero head, Span.shiftAll_shiftAll] at returned
  have moved := Span.offset_eq_of_shiftAll (List.ne_nil_of_mem leftMember) returned
  omega

/-- Two spans of a group in one source overlap by less than a window, and by fewer tokens than groups
were folded into theirs. -/
theorem overlap_of_mem_account (merging : options.mergeOverlaps = true)
    {entry : SpanGroup Label × List Nat}
    (member : entry ∈
      SpanGroup.account (orderedGroups sources options (tally size sources).buckets)) :
    entry.1.spans.Pairwise fun left right => left.source = right.source →
      left.start < right.start ∧ left.stop < right.start + min size entry.2.length := by
  obtain ⟨head, heads, count, whole⟩ :=
    SpanGroup.head_of_mem_account enumerated.lists_orderedGroups_ordered member
  rw [whole]
  apply List.pairwise_map.mpr
  refine (apart_of_mem_lists merging heads.member).imp_of_mem ?_
  intro left right leftMember rightMember apart same
  have gap : left.stop < right.start := apart same
  have short := enumerated.stop_lt_of_head heads leftMember rightMember same gap
  have long := enumerated.size_le_of_mem_lists merging heads.member leftMember
  rw [← count] at short
  change left.start < right.start ∧
    left.stop + entry.2.length < right.start + min size entry.2.length
  omega

end Enumerated

end RepeatScan.Grouping
