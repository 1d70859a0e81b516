import RepeatScan.Proofs.Detection.Readable
import RepeatScan.Proofs.Grouping.Independence

set_option autoImplicit false

/-! Runs that keep every window apart. What such a run reports is what a comparison of all places with
each other finds, however many contents share a fingerprint. -/

namespace RepeatScan

namespace Place

variable {size : Nat} {sources : List ScannedSource} {options : GroupingOptions}

theorem occurrence?_ofWindow (distinct : (sources.map (·.index)).Nodup) {place : Place}
    (known : place.source ∈ sources) :
    Grouping.occurrence? sources (Span.ofWindow (place.window size)) =
      some (place.occurrence size) := by
  change (Grouping.source? sources place.source.index).map _ = _
  rw [Grouping.source?_eq_some distinct known]
  rfl

theorem occurrences_separate (distinct : (sources.map (·.index)).Nodup) {members : List Place}
    (known : ∀ place ∈ members, place.source ∈ sources) :
    (Span.separate (members.map (window size))).filterMap (Grouping.occurrence? sources) =
      members.map (occurrence size) := by
  unfold Span.separate
  rw [List.map_map, List.filterMap_map, ← List.filterMap_eq_map]
  apply List.filterMap_congr
  intro place member
  exact occurrence?_ofWindow distinct (known place member)

theorem source_mem_of_mem_classes {members : List Place} (listed : members ∈ classes size sources)
    {place : Place} (member : place ∈ members) : place.source ∈ sources := by
  obtain ⟨first, _, rfl⟩ := exists_of_mem_classes listed
  exact (mem_all.mp (mem_alike.mp member).1).1

/-- Without merging, the report of enumerated sources lists the classes that have enough places. -/
theorem occurrences_reportOf_separate (enumerated : Grouping.Enumerated size sources)
    (increasing : (sources.map (·.index)).Pairwise (· < ·))
    (verified : options.verifyContent = true) (apart : options.mergeOverlaps = false) :
    (Grouping.reportOf size options sources).groups.map (·.occurrences) =
      (repeated options.threshold size sources).map fun members =>
        members.map (occurrence size) := by
  have lists : SpanGroup.lists (Grouping.spanGroups sources options
      (Grouping.tally size sources).buckets) =
        (repeated options.threshold size sources).map fun members =>
          Span.separate (members.map (window size)) := by
    rw [enumerated.lists_spanGroups, apart, if_neg Bool.false_ne_true,
      lists_orderedGroups enumerated increasing verified, List.filter_map, repeated,
      Grouping.spans_of_separate apart]
    apply congrArg
    apply List.filter_congr
    intro members _
    rw [Function.comp_apply, Span.separate, List.length_map, List.length_map]
  unfold Grouping.reportOf
  rw [Grouping.occurrences_report, lists, List.map_map]
  apply List.map_congr_left
  intro members member
  exact occurrences_separate enumerated.distinct fun place inside =>
    source_mem_of_mem_classes (List.mem_filter.mp member).1 inside

end Place

namespace Detection

variable {surroundings : Surroundings} {settings : Settings} {mask : Mask} {sources : List Source}

/-- A run that compares contents and does not merge reports exactly the classes of places with the same
tokens that have enough members. It would do so with any other function of the contents for
fingerprints. -/
theorem occurrences_run_separate [Platform] (settings : CheckedSettings)
    (verified : settings.verifyContent = true) (apart : settings.mergeOverlaps = false) :
    let found := readable surroundings settings settings.mask sources
    let size := settings.windowSize
    let expected := (Place.repeated (max 1 settings.minOccurrences) size found).map fun members =>
      members.map (Place.occurrence size)
    (∃ outcome, run surroundings settings sources false = .ok outcome ∧
        outcome.report.groups.map (·.occurrences) = expected) ∧
      ∀ print : List Token → Fingerprint,
        (Grouping.reportOf size (groupingOptions settings)
          (found.map (·.reprint print size))).groups.map (·.occurrences) = expected := by
  intro found size expected
  have enumerated : Grouping.Enumerated size found :=
    enumerated_readable surroundings settings settings.mask sources
  have report : (Grouping.reportOf size (groupingOptions settings) found).groups.map
      (·.occurrences) = expected :=
    Place.occurrences_reportOf_separate enumerated
      (index_readable_increasing surroundings settings settings.mask sources) verified apart
  constructor
  · refine ⟨_, runBy_of_valid tally settings, ?_⟩
    rw [report_conclusion]
    exact report
  · intro print
    rw [← report]
    exact Grouping.occurrences_reportOf_congr verified (enumerated.reprint print) enumerated
      (Grouping.blank_reprint print size found)

theorem occurrences_run_separate_twoTexts :
    ∃ outcome, run noFiles (singles false) twoTexts false = .ok outcome ∧
      outcome.report.groups.map (·.occurrences) =
        [[⟨['a'], 0, 1, ⟨1, 1⟩⟩, ⟨['b'], 1, 2, ⟨2, 2⟩⟩],
          [⟨['a'], 1, 2, ⟨1, 1⟩⟩, ⟨['b'], 2, 3, ⟨2, 2⟩⟩]] := by
  obtain ⟨⟨outcome, ran, same⟩, _⟩ :=
    @occurrences_run_separate noFiles twoTexts _ ⟨singles false, Mask.standard, rfl, rfl⟩ rfl rfl
  refine ⟨outcome, ran, same.trans ?_⟩
  decide +kernel

end Detection

end RepeatScan
