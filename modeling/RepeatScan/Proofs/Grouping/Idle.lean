import RepeatScan.Proofs.Grouping.Origins

set_option autoImplicit false

/-! Sources without windows. They add nothing to any bucket, and a report looks up no source but
those of the windows in the buckets, so it is the same with them and without them. -/

namespace RepeatScan

namespace Grouping

variable {size : Nat} {sources left right : List ScannedSource} {options : GroupingOptions}
  {buckets : List Bucket}

/-- Every span lies in the source of a window that a bucket holds. -/
theorem window_of_mem_spanGroups {group : SpanGroup Label}
    (member : group ∈ spanGroups sources options buckets) {span : Span}
    (inside : span ∈ group.spans) :
    ∃ bucket ∈ buckets, ∃ window ∈ bucket.windows, window.source = span.source := by
  obtain ⟨ordered, present, growth, rfl⟩ := exists_of_mem_spanGroups member
  obtain ⟨short, listed, rfl⟩ := List.mem_map.mp inside
  obtain ⟨windows, ⟨bucket, known, part, held, rfl⟩, produced⟩ :=
    exists_isPart (List.mem_map.mpr ⟨ordered, present, rfl⟩)
  rw [← produced] at listed
  obtain ⟨window, first, source, _⟩ := (spanned_of_mem_spans listed).first
  exact ⟨bucket, known, window, (sublist_of_mem_parts held).subset first, source⟩

section Lookup

variable (same : ∀ bucket ∈ buckets, ∀ window ∈ bucket.windows,
  source? left window.source = source? right window.source)

include same

theorem orderedGroups_congr :
    orderedGroups left options buckets = orderedGroups right options buckets := by
  have part {bucket : Bucket} (present : bucket ∈ buckets) :
      parts left options bucket = parts right options bucket := by
    unfold parts
    congr 2
    apply List.filterMap_congr
    intro window inside
    unfold content?
    rw [same bucket present window inside]
  unfold orderedGroups
  congr 1
  apply List.flatMap_congr
  intro bucket present
  unfold bucketGroups
  rw [part present]

/-- A report looks up no source but those of the windows in its buckets. -/
theorem report_congr : report left options buckets = report right options buckets := by
  have groups : spanGroups left options buckets = spanGroups right options buckets := by
    unfold spanGroups
    rw [orderedGroups_congr same]
  unfold report
  rw [← groups]
  congr 1
  apply List.map_congr_left
  intro group member
  congr 1
  apply List.filterMap_congr
  intro span inside
  obtain ⟨bucket, present, window, held, source⟩ := window_of_mem_spanGroups member inside
  unfold occurrence?
  rw [← source, same bucket present window held]

end Lookup

/-- A source that lists a window at least. -/
def busy (source : ScannedSource) : Bool :=
  !source.windows.isEmpty

theorem tally_busy (size : Nat) (sources : List ScannedSource) :
    tally size (sources.filter busy) = tally size sources := by
  unfold tally
  rw [List.foldl_filter]
  congr 1
  funext tally source
  cases listed : source.windows with
  | nil =>
      rw [busy, listed]
      rfl
  | cons window later =>
      rw [busy, listed]
      rfl

/-- Sources without windows do not show in a report. -/
theorem reportOf_busy (distinct : (sources.map (·.index)).Nodup) :
    reportOf size options (sources.filter busy) = reportOf size options sources := by
  unfold reportOf
  rw [tally_busy]
  apply report_congr
  intro bucket present window inside
  have printed := (mem_bucket_windows present).mp inside
  obtain ⟨source, known, listed⟩ := List.mem_flatMap.mp printed
  obtain ⟨own, held, same⟩ := List.mem_map.mp listed
  obtain ⟨_, rfl⟩ := Prod.mk.inj same
  have working : source ∈ sources.filter busy := by
    refine List.mem_filter.mpr ⟨known, ?_⟩
    cases windows : source.windows with
    | nil =>
        rw [windows] at held
        cases held
    | cons first others =>
        rw [busy, windows]
        rfl
  have fewer : ((sources.filter busy).map (·.index)).Nodup :=
    distinct.sublist (List.filter_sublist.map _)
  exact (source?_eq_some fewer working).trans (source?_eq_some distinct known).symm

end Grouping

end RepeatScan
