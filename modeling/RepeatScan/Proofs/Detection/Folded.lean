import RepeatScan.Proofs.Detection.Readable
import RepeatScan.Proofs.Grouping.Ends
import RepeatScan.Proofs.Grouping.Overlap

set_option autoImplicit false

/-! Runs that fold. Each group of the report is one that the fold leaves, and it is known which groups
were folded into it. The more there are, the more tokens the ends of its occurrences share, and the
further two of them in one source may overlap. -/

namespace RepeatScan.Detection

variable {surroundings : Surroundings} {settings : Settings} {mask : Mask} {sources : List Source}

/-- The groups of a run before shifted ones are folded. -/
def candidates (surroundings : Surroundings) (settings : Settings) (mask : Mask)
    (sources : List Source) : List (SpanGroup Grouping.Label) :=
  Grouping.orderedGroups (readable surroundings settings mask sources) (groupingOptions settings)
    (tally settings (readable surroundings settings mask sources)).buckets

/-- The groups of a run, each with the positions of the candidates that were folded into it. -/
def folded (surroundings : Surroundings) (settings : Settings) (mask : Mask)
    (sources : List Source) : List (SpanGroup Grouping.Label × List Nat) :=
  SpanGroup.account (candidates surroundings settings mask sources)

theorem candidates_eq (surroundings : Surroundings) (settings : Settings) (mask : Mask)
    (sources : List Source) :
    candidates surroundings settings mask sources =
      Grouping.orderedGroups (readable surroundings settings mask sources)
        (groupingOptions settings) (Grouping.tally settings.windowSize
          (readable surroundings settings mask sources)).buckets := by
  unfold candidates
  rw [buckets_tally]

theorem occurrences_folded (merging : settings.mergeOverlaps = true) :
    (conclusion tally surroundings settings mask sources).report.groups.map
        (fun group => group.occurrences.map some) =
      (folded surroundings settings mask sources).map fun entry =>
        entry.1.spans.map (Grouping.occurrence? (readable surroundings settings mask sources)) := by
  have chosen : (groupingOptions settings).mergeOverlaps = true := merging
  rw [report_conclusion, Grouping.reportOf,
    (enumerated_readable surroundings settings mask sources).occurrences_report_some,
    Grouping.spanGroups, if_pos chosen, ← candidates_eq, ← SpanGroup.map_fst_account,
    SpanGroup.lists, List.map_map, List.map_map]
  rfl

/-- What the fold leaves, found without fingerprints and without folding: of the classes of places that
have enough spans when merged, those that continue no other one, each grown by the reach of its chain. -/
theorem spans_folded (verified : settings.verifyContent = true)
    (merging : settings.mergeOverlaps = true) :
    let classes := Place.mergedClasses (max 1 settings.minOccurrences) settings.windowSize
      (readable surroundings settings mask sources)
    (folded surroundings settings mask sources).map (fun entry => (entry.1.spans, entry.2.length)) =
      (classes.filter fun spans => !Span.continues classes spans).map fun spans =>
        (Span.extendAll (Span.reach classes spans) spans, Span.reach classes spans) := by
  intro classes
  have enumerated := enumerated_readable surroundings settings mask sources
  have increasing := index_readable_increasing surroundings settings mask sources
  have compared : (groupingOptions settings).verifyContent = true := verified
  have lists : SpanGroup.lists (candidates surroundings settings mask sources) = classes := by
    rw [candidates_eq]
    exact Place.lists_orderedGroups_of_merge enumerated increasing compared merging
  have ordered : Span.Ordered (SpanGroup.lists (candidates surroundings settings mask sources)) := by
    rw [candidates_eq]
    exact enumerated.lists_orderedGroups_ordered
  rw [folded, SpanGroup.spans_account ordered, lists]

theorem spans_folded_twoTexts :
    (folded noFiles (singles true) Mask.standard twoTexts).map
        (fun entry => (entry.1.spans, entry.2.length)) =
      [([⟨0, 0, 2⟩, ⟨1, 1, 3⟩], 1)] := by
  rw [spans_folded rfl rfl]
  decide +kernel

/-- Settings for windows of two tokens, which need no second place. -/
def pairs : Settings :=
  { Settings.standard with windowSize := 2, minOccurrences := 1 }

/-- A text that repeats itself after three tokens. -/
def periodicText : List Source :=
  [⟨['a'], .text "1 2 3 1 2 3 1".toList⟩]

theorem spans_folded_periodicText :
    (folded noFiles pairs Mask.standard periodicText).map
        (fun entry => (entry.1.spans, entry.2.length)) =
      [([⟨0, 0, 4⟩, ⟨0, 3, 7⟩], 2)] := by
  rw [spans_folded rfl rfl]
  decide +kernel

/-! ### Ends -/

/-- All occurrences of a group begin with the same tokens and end with the same tokens: as many as a
window has, and one more for each group that was folded into it. -/
theorem ends_run [Platform] (settings : CheckedSettings)
    (verified : settings.verifyContent = true) (merging : settings.mergeOverlaps = true) :
    let found := readable surroundings settings settings.mask sources
    (∃ outcome, run surroundings settings sources false = .ok outcome ∧
        outcome.report.groups.map (fun group => group.occurrences.map some) =
          (folded surroundings settings settings.mask sources).map fun entry =>
            entry.1.spans.map (Grouping.occurrence? found)) ∧
      ∀ entry ∈ folded surroundings settings settings.mask sources,
        Grouping.SharesEnds found (settings.windowSize + entry.2.length) entry.1.spans := by
  intro found
  refine ⟨⟨_, runBy_of_valid tally settings, occurrences_folded merging⟩, ?_⟩
  intro entry member
  unfold folded at member
  rw [candidates_eq] at member
  exact (enumerated_readable surroundings settings settings.mask sources).sharesEnds_of_mem_account
    settings.windowSize_pos verified merging member

theorem ends_run_twoTexts :
    ∃ outcome, run noFiles (singles true) twoTexts false = .ok outcome ∧
      outcome.report.groups.map (fun group => group.occurrences.map some) =
        [[some ⟨['a'], 0, 2, ⟨1, 1⟩⟩, some ⟨['b'], 1, 3, ⟨2, 2⟩⟩]] ∧
      Grouping.SharesEnds (readable noFiles (singles true) Mask.standard twoTexts) 2
        [⟨0, 0, 2⟩, ⟨1, 1, 3⟩] := by
  obtain ⟨⟨outcome, ran, same⟩, shares⟩ :=
    @ends_run noFiles twoTexts _ ⟨singles true, Mask.standard, rfl, rfl⟩ rfl rfl
  obtain ⟨entry, single, shape⟩ := List.map_eq_singleton_iff.mp spans_folded_twoTexts
  obtain ⟨spans, count⟩ := Prod.mk.inj shape
  have own := shares entry (by rw [single]; exact List.mem_singleton_self entry)
  rw [spans, count] at own
  rw [single, List.map_singleton, spans] at same
  exact ⟨outcome, ran, same.trans (by decide +kernel), own⟩

/-! ### Overlaps -/

/-- Two occurrences of a group in one source overlap by less than a window, and by fewer tokens than
groups were folded into theirs; so without folding there is a gap between them. -/
theorem overlap_run [Platform] (settings : CheckedSettings)
    (merging : settings.mergeOverlaps = true) :
    (∃ outcome, run surroundings settings sources false = .ok outcome ∧
        outcome.report.groups.map (fun group => group.occurrences.map some) =
          (folded surroundings settings settings.mask sources).map fun entry =>
            entry.1.spans.map (Grouping.occurrence?
              (readable surroundings settings settings.mask sources))) ∧
      ∀ entry ∈ folded surroundings settings settings.mask sources,
        entry.1.spans.Pairwise fun left right => left.source = right.source →
          left.start < right.start ∧
            left.stop < right.start + min settings.windowSize entry.2.length := by
  refine ⟨⟨_, runBy_of_valid tally settings, occurrences_folded merging⟩, ?_⟩
  intro entry member
  unfold folded at member
  rw [candidates_eq] at member
  exact (enumerated_readable surroundings settings settings.mask sources).overlap_of_mem_account
    merging member

theorem overlap_run_periodicText :
    ∃ entry ∈ folded noFiles pairs Mask.standard periodicText,
      entry.1.spans = [⟨0, 0, 4⟩, ⟨0, 3, 7⟩] ∧
        entry.1.spans.Pairwise fun left right => left.source = right.source →
          left.start < right.start ∧ left.stop < right.start + min 2 entry.2.length := by
  obtain ⟨_, overlap⟩ :=
    @overlap_run noFiles periodicText _ ⟨pairs, Mask.standard, rfl, rfl⟩ rfl
  obtain ⟨entry, single, shape⟩ := List.map_eq_singleton_iff.mp spans_folded_periodicText
  have member : entry ∈ folded noFiles pairs Mask.standard periodicText := by
    rw [single]
    exact List.mem_singleton_self entry
  exact ⟨entry, member, (Prod.mk.inj shape).1, overlap entry member⟩

/-- Merging does not keep the occurrences of a group apart: here two groups are folded into the first
one, and its two occurrences then share a token. -/
theorem occurrences_periodicText_overlap :
    pairs.check = .ok pairs ∧ pairs.mergeOverlaps = true ∧
      ∃ outcome, run noFiles pairs periodicText false = .ok outcome ∧
        outcome.report.groups.map (·.occurrences) =
          [[⟨['a'], 0, 4, ⟨1, 1⟩⟩, ⟨['a'], 3, 7, ⟨1, 1⟩⟩]] ∧
        ¬∀ group ∈ outcome.report.groups, group.occurrences.Pairwise fun left right =>
          left.source = right.source → left.stop < right.start := by
  refine ⟨rfl, rfl, conclusion tally noFiles pairs Mask.standard periodicText,
    runBy_of_valid tally ⟨pairs, Mask.standard, rfl, rfl⟩, ?_⟩
  obtain ⟨entry, whole, shape⟩ := List.map_eq_singleton_iff.mp spans_folded_periodicText
  have reported := @occurrences_folded noFiles pairs Mask.standard periodicText rfl
  rw [whole, List.map_singleton, (Prod.mk.inj shape).1] at reported
  obtain ⟨group, single, listed⟩ := List.map_eq_singleton_iff.mp reported
  have occurrences : group.occurrences = [⟨['a'], 0, 4, ⟨1, 1⟩⟩, ⟨['a'], 3, 7, ⟨1, 1⟩⟩] := by
    apply List.map_injective_iff.mpr (Option.some_injective Occurrence)
    exact listed.trans (by decide +kernel)
  rw [single, List.map_singleton, occurrences]
  refine ⟨rfl, fun apart => ?_⟩
  have separate := apart group (List.mem_singleton_self group)
  rw [occurrences] at separate
  exact absurd separate (by decide)

end RepeatScan.Detection
