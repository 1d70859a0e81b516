import RepeatScan.Proofs.Detection.Identity
import RepeatScan.Proofs.Grouping.Verification

set_option autoImplicit false

/-! Runs that compare contents and runs that do not. The two give the same where no two windows with
different tokens share a fingerprint. Whatever fingerprints are shared, if nothing is merged and no
group is too small, comparing contents only takes the groups of the other run apart. -/

namespace RepeatScan.Detection

variable {surroundings : Surroundings} {settings : Settings} {mask : Mask} {sources : List Source}

/-- The occurrence of a span with the position of its source. -/
def located? (found : List ScannedSource) (span : Span) : Option (Nat × Occurrence) :=
  (Grouping.occurrence? found span).map fun occurrence => (span.source, occurrence)

theorem occurrences_located (surroundings : Surroundings) (settings : Settings) (mask : Mask)
    (sources : List Source) :
    (located surroundings settings mask sources).map (·.occurrences) =
      (reported surroundings settings mask sources).map
        (List.filterMap (located? (readable surroundings settings mask sources))) := by
  unfold located reported SpanGroup.lists
  rw [List.map_map, List.map_map]
  rfl

theorem eq_of_mem_located? {found : List ScannedSource} {first second : Span}
    {entry : Nat × Occurrence} (inFirst : entry ∈ located? found first)
    (inSecond : entry ∈ located? found second) : first = second := by
  have ends {span : Span} (placed : entry ∈ located? found span) :
      span = ⟨entry.1, entry.2.start, entry.2.stop⟩ := by
    rcases Option.map_eq_some_iff.mp placed with ⟨occurrence, resolved, rfl⟩
    rcases Option.map_eq_some_iff.mp resolved with ⟨source, _, rfl⟩
    rfl
  exact (ends inFirst).trans (ends inSecond).symm

theorem refines_located (apart : settings.mergeOverlaps = false)
    (few : settings.minOccurrences ≤ 1) :
    Refines
      ((located surroundings { settings with verifyContent := true } mask sources).map
        (·.occurrences))
      ((located surroundings { settings with verifyContent := false } mask sources).map
        (·.occurrences)) := by
  have enumerated := enumerated_readable surroundings settings mask sources
  have spans := @Grouping.Enumerated.refines_spanGroups settings.windowSize
    (readable surroundings settings mask sources) (groupingOptions settings) enumerated apart few
  rw [occurrences_located, occurrences_located, reported_eq, reported_eq]
  exact spans.filterMap fun _ _ _ => eq_of_mem_located?

theorem conclusion_verifying (telling : Grouping.Telling settings.windowSize
    (readable surroundings settings mask sources)) :
    conclusion tally surroundings { settings with verifyContent := true } mask sources =
      conclusion tally surroundings { settings with verifyContent := false } mask sources := by
  have report : (conclusion tally surroundings { settings with verifyContent := true } mask
      sources).report = (conclusion tally surroundings { settings with verifyContent := false } mask
        sources).report := by
    rw [report_conclusion, report_conclusion]
    exact @Grouping.Enumerated.report_verifying _ _ (groupingOptions settings)
      (enumerated_readable surroundings settings mask sources) telling
  -- Besides the report, only the number of its groups could depend on the comparison.
  have others : conclusion tally surroundings { settings with verifyContent := true } mask sources =
      { conclusion tally surroundings { settings with verifyContent := false } mask sources with
        report := (conclusion tally surroundings { settings with verifyContent := true } mask
          sources).report
        statistics :=
          { (conclusion tally surroundings { settings with verifyContent := false } mask
              sources).statistics with
            groupsReported := (conclusion tally surroundings
              { settings with verifyContent := true } mask sources).report.groups.length } } := rfl
  rw [others, report]
  rfl

/-- Of two runs that differ in nothing but the comparison of contents, both give an outcome. Where no
two windows with different tokens share a fingerprint, it is the same one. In any case, if nothing is
merged and no group is too small, each group of the run that compares contents is part of a single
group of the other run, and each group of that run is the disjoint union of some of these. -/
theorem verified_run [Platform] (settings : CheckedSettings) :
    ∃ compared trusted,
      run surroundings { settings with verifyContent := true } sources false = .ok compared ∧
      run surroundings { settings with verifyContent := false } sources false = .ok trusted ∧
      Locates sources
        (located surroundings { settings with verifyContent := true } settings.mask sources)
        compared.report ∧
      Locates sources
        (located surroundings { settings with verifyContent := false } settings.mask sources)
        trusted.report ∧
      (Grouping.Telling settings.windowSize (readable surroundings settings settings.mask sources) →
        compared = trusted) ∧
      (settings.mergeOverlaps = false → settings.minOccurrences ≤ 1 →
        Refines
          ((located surroundings { settings with verifyContent := true } settings.mask sources).map
            (·.occurrences))
          ((located surroundings { settings with verifyContent := false } settings.mask sources).map
            (·.occurrences))) := by
  let comparing (verify : Bool) : CheckedSettings :=
    settings.amend { settings with verifyContent := verify } rfl rfl
  refine ⟨_, _, runBy_of_valid tally (comparing true), runBy_of_valid tally (comparing false),
    locates_conclusion _ _ _ _, locates_conclusion _ _ _ _, conclusion_verifying, ?_⟩
  intro apart few
  exact refines_located apart few

/-- Settings for windows of a single token, each of which stands for itself. -/
def scattered : Settings :=
  { Settings.standard with windowSize := 1, minOccurrences := 1, mergeOverlaps := false }

theorem verified_run_twoTexts :
    ∃ outcome, run noFiles { scattered with verifyContent := true } twoTexts false = .ok outcome ∧
      run noFiles { scattered with verifyContent := false } twoTexts false = .ok outcome ∧
      Refines
        ((located noFiles { scattered with verifyContent := true } Mask.standard twoTexts).map
          (·.occurrences))
        ((located noFiles { scattered with verifyContent := false } Mask.standard twoTexts).map
          (·.occurrences)) := by
  obtain ⟨compared, trusted, first, second, _, _, same, refines⟩ :=
    @verified_run noFiles twoTexts _ ⟨scattered, Mask.standard, rfl, rfl⟩
  obtain rfl := same telling_twoTexts
  exact ⟨compared, first, second, refines rfl (Nat.le_refl 1)⟩

end RepeatScan.Detection
