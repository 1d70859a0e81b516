import RepeatScan.Proofs.Detection.Folded
import RepeatScan.Proofs.Grouping.Threshold

set_option autoImplicit false

/-! Runs under two thresholds. A run that asks for more occurrences reports the groups of the other run
that have that many, in the same order and without a change to any of them, and differs in nothing
else but the number of groups that it counts. -/

namespace RepeatScan

/-- An outcome without the groups that have too few occurrences. -/
def Outcome.atLeast (threshold : Nat) (outcome : Outcome) : Outcome :=
  { outcome with
    report := outcome.report.atLeast threshold
    statistics := { outcome.statistics with
      groupsReported := (outcome.report.atLeast threshold).groups.length } }

namespace Detection

variable {surroundings : Surroundings} {settings : Settings} {mask : Mask} {sources : List Source}

theorem report_conclusion_raised {fewer more : Nat} (rising : fewer ≤ more) :
    (conclusion tally surroundings { settings with minOccurrences := more } mask sources).report =
      (conclusion tally surroundings { settings with minOccurrences := fewer } mask
        sources).report.atLeast (max 1 more) := by
  rw [report_conclusion, report_conclusion]
  exact @Grouping.Enumerated.report_raised _ fewer more _ (groupingOptions settings) rising
    (enumerated_readable surroundings settings mask sources)

theorem conclusion_raised {fewer more : Nat} (rising : fewer ≤ more) :
    conclusion tally surroundings { settings with minOccurrences := more } mask sources =
      (conclusion tally surroundings { settings with minOccurrences := fewer } mask
        sources).atLeast (max 1 more) := by
  unfold Outcome.atLeast
  rw [← report_conclusion_raised rising]
  rfl

/-- Raising the threshold only filters the report. -/
theorem run_raised [Platform] (settings : CheckedSettings) {fewer more : Nat}
    (rising : fewer ≤ more) :
    ∃ outcome,
      run surroundings { settings with minOccurrences := fewer } sources false = .ok outcome ∧
        run surroundings { settings with minOccurrences := more } sources false =
          .ok (outcome.atLeast (max 1 more)) := by
  let asking (minimum : Nat) : CheckedSettings :=
    settings.amend { settings with minOccurrences := minimum } rfl rfl
  refine ⟨_, runBy_of_valid tally (asking fewer), ?_⟩
  refine (runBy_of_valid tally (asking more)).trans ?_
  exact congrArg Except.ok (conclusion_raised rising)

theorem run_raised_twoTexts :
    ∃ outcome, run noFiles { singles true with minOccurrences := 0 } twoTexts false = .ok outcome ∧
      run noFiles { singles true with minOccurrences := 2 } twoTexts false =
        .ok (outcome.atLeast 2) ∧
      outcome.report.groups.map (·.occurrences.length) = [2, 1] := by
  obtain ⟨outcome, loose, strict⟩ :=
    @run_raised noFiles twoTexts _ ⟨singles true, Mask.standard, rfl, rfl⟩ 0 2 (by decide)
  refine ⟨outcome, loose, strict, ?_⟩
  obtain rfl := Except.ok.inj ((runBy_of_valid tally
    ⟨{ singles true with minOccurrences := 0 }, Mask.standard, rfl, rfl⟩).symm.trans loose)
  have spans : (folded noFiles { singles true with minOccurrences := 0 } Mask.standard twoTexts).map
      (fun entry => (entry.1.spans, entry.2.length)) =
        [([⟨0, 0, 2⟩, ⟨1, 1, 3⟩], 1), ([⟨1, 0, 1⟩], 0)] := by
    rw [spans_folded rfl rfl]
    decide +kernel
  have counts := congrArg (List.map fun entry => entry.1.length) spans
  have lengths := congrArg (List.map List.length) (@occurrences_folded noFiles
    { singles true with minOccurrences := 0 } Mask.standard twoTexts rfl)
  simp only [List.map_map, Function.comp_def, List.length_map] at lengths counts
  exact lengths.trans counts

end Detection

end RepeatScan
