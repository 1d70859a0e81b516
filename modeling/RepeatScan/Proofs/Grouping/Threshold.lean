import RepeatScan.Proofs.Grouping.Origins
import RepeatScan.Proofs.Span.Restriction

set_option autoImplicit false

/-! The threshold. Groups are tested on their number of spans before shifts are folded, yet raising the
threshold does no more than leave out groups of the report: those that stay have the same label, the
same place in the order and the same spans. -/

namespace RepeatScan

/-- The groups of a report with a number of occurrences at least. -/
def Report.atLeast (threshold : Nat) (report : Report) : Report :=
  ⟨report.groups.filter fun group => threshold ≤ group.occurrences.length⟩

namespace Grouping

variable {size fewer more : Nat} {sources : List ScannedSource} {options : GroupingOptions}
  {buckets : List Bucket} {bucket : Bucket} (rising : fewer ≤ more)

include rising

private theorem mem_bucketGroups_raised {group : SpanGroup Label} :
    group ∈ bucketGroups sources { options with minOccurrences := more } bucket ↔
      group ∈ bucketGroups sources { options with minOccurrences := fewer } bucket ∧
        max 1 more ≤ group.spans.length := by
  -- Neither the parts of a bucket nor their spans and labels depend on the threshold.
  rw [mem_bucketGroups, mem_bucketGroups]
  constructor
  · intro found
    obtain ⟨part, ordinal, listed, enough, rfl⟩ := found
    refine ⟨⟨part, ordinal, listed, Nat.le_trans ?_ enough, rfl⟩, enough⟩
    change max 1 fewer ≤ max 1 more
    omega
  · intro both
    obtain ⟨⟨part, ordinal, listed, _, rfl⟩, enough⟩ := both
    exact ⟨part, ordinal, listed, enough, rfl⟩

theorem orderedGroups_raised (distinct : (buckets.flatMap Bucket.windows).Nodup) :
    orderedGroups sources { options with minOccurrences := more } buckets =
      SpanGroup.atLeast (max 1 more)
        (orderedGroups sources { options with minOccurrences := fewer } buckets) := by
  apply Window.eq_of_mem_iff (fun group => group.key.first) (orderedGroups_increasing distinct)
    ((orderedGroups_increasing distinct).filter _)
  intro group
  rw [SpanGroup.mem_atLeast, mem_orderedGroups, mem_orderedGroups]
  constructor
  · intro found
    obtain ⟨bucket, present, inside⟩ := found
    obtain ⟨below, enough⟩ := (mem_bucketGroups_raised rising).mp inside
    exact ⟨⟨bucket, present, below⟩, enough⟩
  · intro both
    obtain ⟨⟨bucket, present, below⟩, enough⟩ := both
    exact ⟨bucket, present, (mem_bucketGroups_raised rising).mpr ⟨below, enough⟩⟩

variable (enumerated : Enumerated size sources)

include enumerated

theorem Enumerated.spanGroups_raised :
    spanGroups sources { options with minOccurrences := more } (tally size sources).buckets =
      SpanGroup.atLeast (max 1 more) (spanGroups sources { options with minOccurrences := fewer }
        (tally size sources).buckets) := by
  unfold spanGroups
  rw [orderedGroups_raised rising enumerated.nodup_windows_buckets]
  change (if options.mergeOverlaps = true then _ else _) =
    SpanGroup.atLeast _ (if options.mergeOverlaps = true then _ else _)
  by_cases merging : options.mergeOverlaps = true
  · rw [if_pos merging, if_pos merging,
      SpanGroup.coalesce_atLeast enumerated.lists_orderedGroups_ordered]
  · rw [if_neg merging, if_neg merging]

/-- A report under a higher threshold is the one under a lower threshold without the small groups. -/
theorem Enumerated.report_raised :
    report sources { options with minOccurrences := more } (tally size sources).buckets =
      (report sources { options with minOccurrences := fewer }
        (tally size sources).buckets).atLeast (max 1 more) := by
  unfold report Report.atLeast
  rw [enumerated.spanGroups_raised rising, SpanGroup.atLeast, List.filter_map]
  congr 2
  apply List.filter_congr
  intro group member
  have found : group.spans ∈ SpanGroup.lists (spanGroups sources
      { options with minOccurrences := fewer } (tally size sources).buckets) :=
    List.mem_map.mpr ⟨group, member, rfl⟩
  have located := congrArg List.length (map_some_filterMap (occurrence? sources) fun span inside =>
    enumerated.isSome_occurrence? found inside)
  rw [List.length_map, List.length_map] at located
  rw [Function.comp_apply, located]

end Grouping

end RepeatScan
