import RepeatScan.Proofs.Grouping.Labels

set_option autoImplicit false

/-! Groups by their labels. Where no two contents share a fingerprint, a bucket holds windows of
one content, so it is not split and gives one group at most, whose label is the fingerprint of the
bucket. Merging lets every span start where one of these windows does, and the fold moves no start
and drops whole groups. So labels stay apart, and each is the fingerprint of the windows with which
the spans of its group start. -/

namespace RepeatScan

/-- In a report whose labels are different, every group is found by its label. -/
theorem Report.get?_of_mem {report : Report} (distinct : (report.groups.map (·.fingerprint)).Nodup)
    {group : Group} (member : group ∈ report.groups) :
    report.get? group.fingerprint = some group :=
  find?_key distinct member

namespace Grouping

variable {size : Nat} {sources : List ScannedSource} {options : GroupingOptions}

/-- Windows of one fingerprint have one content. -/
def Telling (size : Nat) (sources : List ScannedSource) : Prop :=
  ∀ left ∈ prints size sources, ∀ right ∈ prints size sources, left.1 = right.1 →
    content? sources left.2 = content? sources right.2

namespace Enumerated

variable (enumerated : Enumerated size sources) (telling : Telling size sources)

include enumerated telling

theorem parts_bucket {bucket : Bucket} (present : bucket ∈ (tally size sources).buckets) :
    parts sources options bucket = [(bucket.first, bucket.others)] := by
  have first : bucket.first ∈ bucket.windows := List.mem_cons_self
  obtain ⟨content, found⟩ := Option.isSome_iff_exists.mp
    (enumerated.isSome_content? (enumerated.mem_windowsOf_of_bucket present first))
  apply parts_of_alike
  intro window member
  rw [← found]
  exact telling _ ((mem_bucket_windows present).mp member) _ ((mem_bucket_windows present).mp first)
    rfl

/-- A group has the spans of all windows of a bucket, and the first of them and their fingerprint
for its key. -/
theorem exists_bucket_of_mem_orderedGroups {group : SpanGroup Label}
    (member : group ∈ orderedGroups sources options (tally size sources).buckets) :
    ∃ bucket ∈ (tally size sources).buckets,
      group = ⟨⟨bucket.first, bucket.fingerprint⟩, spans options bucket.windows⟩ := by
  obtain ⟨bucket, present, produced⟩ := mem_orderedGroups.mp member
  obtain ⟨part, ordinal, listed, _, rfl⟩ := mem_bucketGroups.mp produced
  rw [enumerated.parts_bucket telling present] at listed
  obtain ⟨rfl, rfl⟩ := Prod.mk.inj (List.mem_singleton.mp listed)
  exact ⟨bucket, present, rfl⟩

/-- The label of a group is the fingerprint of every window with which one of its spans starts. -/
theorem label_opening {group : SpanGroup Label}
    (member : group ∈ spanGroups sources options (tally size sources).buckets) {span : Span}
    (inside : span ∈ group.spans) :
    (group.key.fingerprint, opening size span) ∈ prints size sources := by
  obtain ⟨ordered, present, growth, rfl⟩ := exists_of_mem_spanGroups member
  obtain ⟨short, listed, rfl⟩ := List.mem_map.mp inside
  obtain ⟨bucket, known, rfl⟩ := enumerated.exists_bucket_of_mem_orderedGroups telling present
  have held := opening_mem_of_mem_spans
    (fun window present => size_of_mem_windowsOf (enumerated.mem_windowsOf_of_bucket known present))
    listed
  -- Growing a span leaves its start.
  exact (mem_bucket_windows known).mp held

theorem nodup_labels_orderedGroups :
    ((orderedGroups sources options (tally size sources).buckets).map
      (·.key.fingerprint)).Nodup := by
  apply List.pairwise_map.mpr
  refine (orderedGroups_increasing enumerated.nodup_windows_buckets).imp_of_mem ?_
  intro left right leftMember rightMember before same
  obtain ⟨bucket, leftKnown, rfl⟩ :=
    enumerated.exists_bucket_of_mem_orderedGroups telling leftMember
  obtain ⟨other, rightKnown, rfl⟩ :=
    enumerated.exists_bucket_of_mem_orderedGroups telling rightMember
  obtain rfl : bucket = other :=
    List.inj_on_of_nodup_map (nodup_fingerprints_tally size sources) leftKnown rightKnown same
  exact before.2 rfl

/-- No two groups have one label. -/
theorem nodup_labels :
    ((spanGroups sources options (tally size sources).buckets).map (·.key.fingerprint)).Nodup := by
  have ordered : ((orderedGroups sources options (tally size sources).buckets).map
      (·.key.fingerprint)).Nodup := enumerated.nodup_labels_orderedGroups telling
  unfold spanGroups
  by_cases merging : options.mergeOverlaps = true
  · rw [if_pos merging]
    have kept := (SpanGroup.keys_coalesce_sublist
      (orderedGroups sources options (tally size sources).buckets)).map Label.fingerprint
    rw [List.map_map, List.map_map] at kept
    exact kept.nodup ordered
  · rw [if_neg merging]
    exact ordered

end Enumerated

end Grouping

end RepeatScan
