import RepeatScan.Proofs.Detection.Readable
import RepeatScan.Proofs.Grouping.Coverage
import RepeatScan.Proofs.Grouping.Origins
import RepeatScan.Proofs.Grouping.Region

set_option autoImplicit false

/-! Runs that merge. A region that sources share is reported once and whole, and in general a report
covers exactly the windows of the large classes. -/

namespace RepeatScan.Detection

variable {surroundings : Surroundings} {settings : Settings} {mask : Mask} {sources : List Source}

/-- When a region is all that repeats, a run reports it once, with its exact bounds in every source that
holds it. -/
theorem occurrences_run_region [Platform] (settings : CheckedSettings)
    (verified : settings.verifyContent = true) (merging : settings.mergeOverlaps = true)
    {region : List Token} {copies : List Place}
    (shared : SharedRegion settings.windowSize region
      (readable surroundings settings settings.mask sources) copies)
    (several : 2 ≤ settings.minOccurrences) (enough : settings.minOccurrences ≤ copies.length) :
    (∃ outcome, run surroundings settings sources false = .ok outcome ∧
        outcome.report.groups.map (·.occurrences) =
          [copies.map (Place.occurrence region.length)]) ∧
      ∀ place : Place, place.source ∈ readable surroundings settings settings.mask sources →
        place.Carries region → place ∈ copies := by
  have positive := settings.windowSize_pos
  have increasing := index_readable_increasing surroundings settings settings.mask sources
  constructor
  · refine ⟨_, runBy_of_valid tally settings, ?_⟩
    rw [report_conclusion]
    exact shared.occurrences_reportOf positive increasing
      (enumerated_readable surroundings settings settings.mask sources) verified merging several
      enough
  · intro place known carries
    have inhabited : copies ≠ [] := by
      rintro rfl
      rw [List.length_nil] at enough
      omega
    exact shared.mem_copies_of_carries positive inhabited known carries

/-- Where the two texts hold the tokens that they share. -/
def sharedPlaces : List Place :=
  (readable noFiles (singles true) Mask.standard twoTexts).zipWith Place.mk [0, 1]

theorem length_readable_twoTexts :
    (readable noFiles (singles true) Mask.standard twoTexts).length = 2 := by
  decide +kernel

theorem sharedRegion_twoTexts :
    SharedRegion 1 [['1'], ['2']] (readable noFiles (singles true) Mask.standard twoTexts)
      sharedPlaces where
  long := by decide
  varied := by
    intro first second firstFits secondFits
    have bounded : ∀ first < 2, ∀ second < 2,
        ([['1'], ['2']].drop first).take 1 = ([['1'], ['2']].drop second).take 1 →
          first = second := by
      decide
    exact bounded first firstFits second secondFits
  spread := by
    obtain ⟨first, second, same⟩ := List.length_eq_two.mp length_readable_twoTexts
    unfold sharedPlaces
    rw [same]
    exact List.Sublist.refl _
  carried := by decide +kernel
  elsewhere := by decide +kernel

theorem occurrences_run_region_twoTexts :
    ∃ outcome, run noFiles (singles true) twoTexts false = .ok outcome ∧
      outcome.report.groups.map (·.occurrences) =
        [[⟨['a'], 0, 2, ⟨1, 1⟩⟩, ⟨['b'], 1, 3, ⟨2, 2⟩⟩]] := by
  have enough : 2 ≤ sharedPlaces.length := by decide +kernel
  obtain ⟨⟨outcome, ran, same⟩, _⟩ :=
    @occurrences_run_region noFiles twoTexts _ ⟨singles true, Mask.standard, rfl, rfl⟩ rfl rfl _ _
      sharedRegion_twoTexts (by decide) enough
  refine ⟨outcome, ran, same.trans ?_⟩
  decide +kernel

/-! ### Coverage -/

/-- The spans that a run reports, group by group. -/
def reported (surroundings : Surroundings) (settings : Settings) (mask : Mask)
    (sources : List Source) : List (List Span) :=
  SpanGroup.lists (Grouping.spanGroups (readable surroundings settings mask sources)
    (groupingOptions settings)
    (tally settings (readable surroundings settings mask sources)).buckets)

theorem reported_eq (surroundings : Surroundings) (settings : Settings) (mask : Mask)
    (sources : List Source) :
    reported surroundings settings mask sources =
      SpanGroup.lists (Grouping.spanGroups (readable surroundings settings mask sources)
        (groupingOptions settings) (Grouping.tally settings.windowSize
          (readable surroundings settings mask sources)).buckets) := by
  rw [reported, buckets_tally]

/-- Every span that is reported has its occurrence in the report. -/
theorem occurrences_reported (surroundings : Surroundings) (settings : Settings) (mask : Mask)
    (sources : List Source) :
    (conclusion tally surroundings settings mask sources).report.groups.map
        (fun group => group.occurrences.map some) =
      (reported surroundings settings mask sources).map fun spans =>
        spans.map (Grouping.occurrence? (readable surroundings settings mask sources)) := by
  rw [report_conclusion, reported_eq]
  exact (enumerated_readable surroundings settings mask sources).occurrences_report_some

/-- A run that merges covers the positions of those windows whose class, merged, has enough spans, and no
others; and each such class is held, span by span, by a group of the report. -/
theorem coverage_run [Platform] (settings : CheckedSettings)
    (verified : settings.verifyContent = true) (merging : settings.mergeOverlaps = true) :
    let found := readable surroundings settings settings.mask sources
    let size := settings.windowSize
    let threshold := max 1 settings.minOccurrences
    let located := reported surroundings settings settings.mask sources
    (∃ outcome, run surroundings settings sources false = .ok outcome ∧
        outcome.report.groups.map (fun group => group.occurrences.map some) =
          located.map fun spans => spans.map (Grouping.occurrence? found)) ∧
      (∀ source ∈ found, ∀ position,
        (∃ spans ∈ located, ∃ span ∈ spans, span.Covers source.index position) ↔
          ∃ start, start ≤ position ∧ position < start + size ∧
            start + size ≤ source.tokens.length ∧
              threshold ≤ (Place.merged size found ⟨source, start⟩).length) ∧
      ∀ place ∈ Place.all size found, threshold ≤ (Place.merged size found place).length →
        ∃ spans ∈ located, List.Forall₂ Span.Holds spans (Place.merged size found place) := by
  intro found size threshold located
  have positive : 0 < size := settings.windowSize_pos
  have increasing := index_readable_increasing surroundings settings settings.mask sources
  have enumerated : Grouping.Enumerated size found :=
    enumerated_readable surroundings settings settings.mask sources
  have same : located = SpanGroup.lists (Grouping.spanGroups found (groupingOptions settings)
      (Grouping.tally size found).buckets) :=
    reported_eq surroundings settings settings.mask sources
  refine ⟨⟨_, runBy_of_valid tally settings, occurrences_reported _ _ _ _⟩, ?_, ?_⟩
  · intro source known position
    rw [same, Place.covers_spanGroups enumerated merging increasing verified positive]
    constructor
    · rintro ⟨place, listed, ⟨index, after, before⟩, enough⟩
      obtain ⟨present, fits⟩ := (Place.mem_all_of_pos positive).mp listed
      have own := List.inj_on_of_nodup_map enumerated.distinct present known index
      cases place
      obtain rfl := own
      exact ⟨_, after, before, fits, enough⟩
    · rintro ⟨start, after, before, fits, enough⟩
      exact ⟨⟨source, start⟩, (Place.mem_all_of_pos positive).mpr ⟨known, fits⟩,
        ⟨rfl, after, before⟩, enough⟩
  · intro place listed enough
    rw [same]
    exact Place.exists_spans_hold enumerated merging increasing verified listed enough

theorem coverage_run_twoTexts :
    (∃ spans ∈ reported noFiles (singles true) Mask.standard twoTexts,
        ∃ span ∈ spans, span.Covers 1 2) ∧
      ¬∃ spans ∈ reported noFiles (singles true) Mask.standard twoTexts,
        ∃ span ∈ spans, span.Covers 1 0 := by
  obtain ⟨_, covers, _⟩ :=
    @coverage_run noFiles twoTexts _ ⟨singles true, Mask.standard, rfl, rfl⟩ rfl rfl
  let second := (readable noFiles (singles true) Mask.standard twoTexts).get
    ⟨1, by rw [length_readable_twoTexts]; decide⟩
  have known : second ∈ readable noFiles (singles true) Mask.standard twoTexts :=
    List.get_mem _ _
  have index : second.index = 1 := by decide +kernel
  have later := covers second known 2
  have earlier := covers second known 0
  rw [index] at later earlier
  constructor
  · exact later.mpr ⟨2, by decide, by decide, by decide +kernel, by decide +kernel⟩
  · intro covered
    obtain ⟨start, after, _, _, enough⟩ := earlier.mp covered
    obtain rfl := Nat.le_zero.mp after
    exact absurd enough (by decide +kernel)

end RepeatScan.Detection
