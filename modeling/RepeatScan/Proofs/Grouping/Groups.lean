import RepeatScan.Proofs.Grouping.Parts

set_option autoImplicit false

/-! The groups of spans that buckets give. A part of a bucket gives a group exactly if it has enough
spans, the test on the size of the bucket being no more than a shortcut; and the groups of all buckets
stand in the strict order of their first windows, so the fold finds them ordered. -/

namespace RepeatScan.Grouping

variable {sources : List ScannedSource} {options : GroupingOptions} {bucket : Bucket}
  {buckets : List Bucket}

theorem spans_of_merge (merged : options.mergeOverlaps = true) :
    spans options = Span.merge := by
  funext windows
  unfold spans
  rw [if_pos merged]

theorem spans_of_separate (apart : options.mergeOverlaps = false) :
    spans options = Span.separate := by
  funext windows
  unfold spans
  rw [apart, if_neg Bool.false_ne_true]

theorem length_spans_le (options : GroupingOptions) (windows : List Window) :
    (spans options windows).length ≤ windows.length := by
  cases chosen : options.mergeOverlaps with
  | true =>
      rw [spans_of_merge chosen]
      exact Span.length_merge_le windows
  | false =>
      rw [spans_of_separate chosen, Span.separate, List.length_map]

theorem spans_cons_eq_cons (options : GroupingOptions) (window : Window) (windows : List Window) :
    ∃ stop later, spans options (window :: windows) =
      ⟨window.source, window.start, stop⟩ :: later := by
  cases chosen : options.mergeOverlaps with
  | true =>
      rw [spans_of_merge chosen]
      exact Span.merge_cons_eq_cons window windows
  | false =>
      rw [spans_of_separate chosen]
      exact ⟨window.stop, _, rfl⟩

def groupOf (options : GroupingOptions) (bucket : Bucket) (part : Window × List Window)
    (ordinal : Nat) : SpanGroup Label :=
  ⟨⟨part.1, bucket.fingerprint.disambiguate ordinal⟩, spans options (part.1 :: part.2)⟩

private theorem bucketGroups_eq (sources : List ScannedSource) (options : GroupingOptions)
    (bucket : Bucket) :
    bucketGroups sources options bucket =
      (parts sources options bucket).zipIdx.filterMap fun entry =>
        if (spans options (entry.1.1 :: entry.1.2)).length < options.threshold then none
        else some (groupOf options bucket entry.1 entry.2) := by
  unfold bucketGroups
  by_cases few : bucket.windows.length < options.threshold
  · rw [if_pos few]
    symm
    apply List.filterMap_eq_nil_iff.mpr
    rintro ⟨part, ordinal⟩ member
    have present : part ∈ parts sources options bucket := List.fst_mem_of_mem_zipIdx member
    have inside := (sublist_of_mem_parts present).length_le
    have bound := length_spans_le options (part.1 :: part.2)
    have short : (spans options (part.1 :: part.2)).length < options.threshold := by omega
    exact if_pos short
  · rw [if_neg few]
    rfl

theorem mem_bucketGroups {group : SpanGroup Label} :
    group ∈ bucketGroups sources options bucket ↔ ∃ part ordinal,
      (part, ordinal) ∈ (parts sources options bucket).zipIdx ∧
        options.threshold ≤ (spans options (part.1 :: part.2)).length ∧
        groupOf options bucket part ordinal = group := by
  rw [bucketGroups_eq, List.mem_filterMap]
  constructor
  · rintro ⟨⟨part, ordinal⟩, member, kept⟩
    by_cases few : (spans options (part.1 :: part.2)).length < options.threshold
    · rw [if_pos few] at kept
      cases kept
    · rw [if_neg few] at kept
      exact ⟨part, ordinal, member, Nat.le_of_not_lt few, Option.some.inj kept⟩
  · rintro ⟨part, ordinal, member, enough, rfl⟩
    exact ⟨(part, ordinal), member, if_neg (Nat.not_lt_of_le enough)⟩

theorem bucketGroups_firsts_sublist :
    ((bucketGroups sources options bucket).map (·.key.first)).Sublist bucket.windows := by
  have firsts : ((parts sources options bucket).map (·.1)).Sublist bucket.windows :=
    parts_firsts_sublist
  refine List.Sublist.trans ?_ firsts
  rw [bucketGroups_eq]
  apply SpanGroup.map_filterMap_zipIdx_sublist
  intro part ordinal group kept
  split at kept
  · cases kept
  · obtain rfl := Option.some.inj kept
    rfl

theorem mem_orderedGroups {group : SpanGroup Label} :
    group ∈ orderedGroups sources options buckets ↔
      ∃ bucket ∈ buckets, group ∈ bucketGroups sources options bucket := by
  unfold orderedGroups
  rw [List.mem_mergeSort, List.mem_flatMap]

theorem exists_of_mem_spanGroups {group : SpanGroup Label}
    (member : group ∈ spanGroups sources options buckets) :
    ∃ ordered ∈ orderedGroups sources options buckets, ∃ growth, group = ordered.extend growth := by
  unfold spanGroups at member
  by_cases merging : options.mergeOverlaps = true
  · rw [if_pos merging] at member
    exact SpanGroup.exists_of_mem_coalesce member
  · rw [if_neg merging] at member
    exact ⟨group, member, 0, congrArg (SpanGroup.mk group.key) (List.map_id _).symm⟩

theorem exists_of_mem_lists_spanGroups {found : List Span}
    (member : found ∈ SpanGroup.lists (spanGroups sources options buckets)) :
    ∃ base ∈ SpanGroup.lists (orderedGroups sources options buckets), ∃ growth,
      found = Span.extendAll growth base := by
  obtain ⟨group, present, rfl⟩ := List.mem_map.mp member
  obtain ⟨ordered, listed, growth, rfl⟩ := exists_of_mem_spanGroups present
  exact ⟨ordered.spans, List.mem_map.mpr ⟨ordered, listed, rfl⟩, growth, rfl⟩

/-- No two groups start with the same window, and the groups stand in the order of these windows. -/
theorem orderedGroups_increasing (distinct : (buckets.flatMap Bucket.windows).Nodup) :
    (orderedGroups sources options buckets).Pairwise fun left right =>
      left.key.first.Before right.key.first := by
  have sublist : ((buckets.flatMap (bucketGroups sources options)).map (·.key.first)).Sublist
      (buckets.flatMap Bucket.windows) := by
    clear distinct
    induction buckets with
    | nil => exact List.Sublist.slnil
    | cons bucket later ih =>
        rw [List.flatMap_cons, List.flatMap_cons, List.map_append]
        exact bucketGroups_firsts_sublist.append ih
  have firsts : ((orderedGroups sources options buckets).map (·.key.first)).Nodup :=
    ((List.mergeSort_perm _ _).map _).nodup_iff.mpr (sublist.nodup distinct)
  have ordered : (orderedGroups sources options buckets).Pairwise fun left right =>
      left.key.first.precedes right.key.first = true := by
    apply List.pairwise_mergeSort
    · exact fun _ _ _ => Window.precedes_trans
    · exact fun _ _ => Window.precedes_total _ _
  exact ordered.and (List.pairwise_map.mp firsts)

theorem spans_of_mem_orderedGroups {group : SpanGroup Label}
    (member : group ∈ orderedGroups sources options buckets) :
    ∃ stop later, group.spans = ⟨group.key.first.source, group.key.first.start, stop⟩ :: later := by
  obtain ⟨bucket, _, present⟩ := mem_orderedGroups.mp member
  obtain ⟨part, ordinal, _, _, rfl⟩ := mem_bucketGroups.mp present
  exact spans_cons_eq_cons options part.1 part.2

theorem first_mem_of_mem_orderedGroups {group : SpanGroup Label}
    (member : group ∈ orderedGroups sources options buckets) :
    ∃ bucket ∈ buckets, group.key.first ∈ bucket.windows := by
  obtain ⟨bucket, inside, present⟩ := mem_orderedGroups.mp member
  exact ⟨bucket, inside, bucketGroups_firsts_sublist.subset (List.mem_map.mpr ⟨group, present, rfl⟩)⟩

/-- Buckets of different windows of one size give the fold ordered groups. -/
theorem lists_orderedGroups_ordered {size : Nat}
    (distinct : (buckets.flatMap Bucket.windows).Nodup)
    (uniform : ∀ bucket ∈ buckets, ∀ window ∈ bucket.windows, window.size = size) :
    Span.Ordered (SpanGroup.lists (orderedGroups sources options buckets)) := by
  have sized {group : SpanGroup Label} (member : group ∈ orderedGroups sources options buckets) :
      group.key.first.size = size := by
    obtain ⟨bucket, inside, first⟩ := first_mem_of_mem_orderedGroups member
    exact uniform bucket inside _ first
  constructor
  · intro spans member
    obtain ⟨group, present, rfl⟩ := List.mem_map.mp member
    obtain ⟨stop, later, same⟩ := spans_of_mem_orderedGroups present
    rw [same]
    exact List.cons_ne_nil _ _
  · apply List.pairwise_map.mpr
    refine (orderedGroups_increasing distinct).imp_of_mem ?_
    intro left right leftMember rightMember before
    obtain ⟨leftStop, leftLater, leftSpans⟩ := spans_of_mem_orderedGroups leftMember
    obtain ⟨rightStop, rightLater, rightSpans⟩ := spans_of_mem_orderedGroups rightMember
    rw [leftSpans, rightSpans]
    exact ⟨_, _, rfl, rfl,
      before.source_or_start ((sized leftMember).trans (sized rightMember).symm)⟩

end RepeatScan.Grouping
