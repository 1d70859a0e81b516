import RepeatScan.Proofs.Grouping.Origins

set_option autoImplicit false

/-! Reported spans lie inside their sources. A merged span stops where one of its windows does, and
a chain reaches only as far as there are windows at every step, so growing the heads, which looks at
no bound, never leaves a source. -/

namespace RepeatScan.Grouping

variable {size : Nat} {sources : List ScannedSource} {options : GroupingOptions}

/-- A span has room for a window and ends within a source. -/
structure Fits (size : Nat) (source : ScannedSource) (span : Span) : Prop where
  long : span.start + size ≤ span.stop
  within : span.stop ≤ source.tokens.length

theorem add_le_of_lt_count {tokens start : Nat} (inside : start < Window.count tokens size) :
    start + size ≤ tokens := by
  unfold Window.count at inside
  split at inside
  · exact absurd inside (Nat.not_lt_zero start)
  · omega

namespace Enumerated

variable (enumerated : Enumerated size sources)

include enumerated

theorem stop_le_of_mem_windowsOf {window : Window} (listed : window ∈ windowsOf size sources)
    {source : ScannedSource} (known : source ∈ sources) (index : source.index = window.source) :
    window.stop ≤ source.tokens.length := by
  obtain ⟨owner, present, start, inside, rfl⟩ := mem_windowsOf.mp listed
  obtain rfl : source = owner :=
    List.inj_on_of_nodup_map enumerated.distinct known present index
  exact add_le_of_lt_count inside

/-- Every window that a bucket holds lies inside a source that is known. -/
theorem source_of_mem_bucket {bucket : Bucket} (present : bucket ∈ (tally size sources).buckets)
    {window : Window} (inside : window ∈ bucket.windows) :
    ∃ source, source? sources window.source = some source ∧ window.stop ≤ source.tokens.length := by
  have listed := enumerated.mem_windowsOf_of_bucket present inside
  obtain ⟨source, known, start, _, rfl⟩ := mem_windowsOf.mp listed
  exact ⟨source, source?_eq_some enumerated.distinct known,
    enumerated.stop_le_of_mem_windowsOf listed known rfl⟩

section Listed

variable {found : List Span}
  (member : found ∈ SpanGroup.lists (orderedGroups sources options (tally size sources).buckets))
  {span : Span} (inside : span ∈ found) {source : ScannedSource} (known : source ∈ sources)
  (index : source.index = span.source)

include member inside

theorem long_of_mem_lists : span.start + size ≤ span.stop := by
  by_cases merging : options.mergeOverlaps = true
  · exact enumerated.size_le_of_mem_lists merging member inside
  · obtain ⟨windows, isPart, rfl⟩ := exists_isPart member
    rw [spans_of_separate (Bool.not_eq_true _ ▸ merging)] at inside
    obtain ⟨window, present, rfl⟩ := List.mem_map.mp inside
    have sized := size_of_mem_windowsOf (enumerated.mem_windowsOf_of_isPart isPart present)
    change window.start + size ≤ window.start + window.size
    rw [sized]

include known index

theorem stop_le_of_mem_lists : span.stop ≤ source.tokens.length := by
  obtain ⟨windows, isPart, rfl⟩ := exists_isPart member
  obtain ⟨last, present, lastSource, stop⟩ := (spanned_of_mem_spans inside).last
  rw [← stop]
  exact enumerated.stop_le_of_mem_windowsOf (enumerated.mem_windowsOf_of_isPart isPart present)
    known (index.trans lastSource.symm)

end Listed

/-- Every span that is reported lies inside its source. -/
theorem fits_of_mem_spanGroups {found : List Span}
    (member : found ∈ SpanGroup.lists (spanGroups sources options (tally size sources).buckets))
    {span : Span} (inside : span ∈ found) {source : ScannedSource} (known : source ∈ sources)
    (index : source.index = span.source) : Fits size source span := by
  rw [enumerated.lists_spanGroups] at member
  by_cases merging : options.mergeOverlaps = true
  · rw [if_pos merging] at member
    obtain ⟨head, heads, rfl⟩ := Span.mem_grownHeads.mp member
    obtain ⟨short, present, rfl⟩ := List.mem_map.mp inside
    -- The last link of the chain stops where the grown head does.
    have last := heads.mem_link (Nat.le_refl _)
    have moved := enumerated.stop_le_of_mem_lists last (List.mem_map.mpr ⟨short, present, rfl⟩)
      known index
    exact ⟨Nat.le_add_right_of_le (enumerated.long_of_mem_lists heads.member present), moved⟩
  · rw [if_neg merging] at member
    exact ⟨enumerated.long_of_mem_lists member inside,
      enumerated.stop_le_of_mem_lists member inside known index⟩

end Enumerated

end RepeatScan.Grouping
