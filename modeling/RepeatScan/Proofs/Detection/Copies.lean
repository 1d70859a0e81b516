import RepeatScan.Proofs.Detection.Reported
import RepeatScan.Proofs.Grouping.Copies

set_option autoImplicit false

/-! Copies in a report. A run that compares contents and needs no more than two occurrences finds a
text that the input holds twice: it covers both from the first token to the last and names the same
ranges of both in every group, whatever other sources there are. -/

namespace RepeatScan.Detection

variable {surroundings : Surroundings} {settings : Settings} {mask : Mask} {sources : List Source}

/-- When two sources have the same tokens, enough for a window, the report covers all of them and
every group has the same ranges in both. -/
theorem copied_run [Platform] (settings : CheckedSettings)
    (verified : settings.verifyContent = true) (few : settings.minOccurrences ≤ 2)
    {left right : Nat} (apart : left ≠ right) {text copy : Text}
    (leftText : TextAt surroundings sources left text)
    (rightText : TextAt surroundings sources right copy)
    (same : (settings.mask.tokenStream text).tokens = (settings.mask.tokenStream copy).tokens)
    (room : settings.windowSize ≤ (settings.mask.tokenStream text).length) :
    ∃ outcome, run surroundings settings sources false = .ok outcome ∧
      List.Forall₂ (fun spans group => List.Forall₂ (Reports sources) spans group.occurrences)
        (reported surroundings settings settings.mask sources) outcome.report.groups ∧
      (∀ position < (settings.mask.tokenStream text).length,
        ∃ spans ∈ reported surroundings settings settings.mask sources,
          ∃ span ∈ spans, span.Covers left position) ∧
      ∀ spans ∈ reported surroundings settings settings.mask sources,
        Span.rangesIn left spans = Span.rangesIn right spans := by
  have enumerated := enumerated_readable surroundings settings settings.mask sources
  have increasing := index_readable_increasing surroundings settings settings.mask sources
  obtain ⟨original, known, rfl, tokens⟩ := leftText.exists_readable settings settings.mask
  obtain ⟨copied, copyKnown, rfl, copyTokens⟩ := rightText.exists_readable settings settings.mask
  have copies : Copies (readable surroundings settings settings.mask sources) original copied := by
    refine ⟨known, copyKnown, apart, ?_⟩
    rw [tokens, copyTokens, same]
  have threshold : (groupingOptions settings).threshold ≤ 2 := Nat.max_le.mpr ⟨by decide, few⟩
  rw [reported_eq]
  refine ⟨_, runBy_of_valid tally settings, ?_, ?_, ?_⟩
  · rw [← reported_eq]
    exact forall₂_reported fun _ member _ inside => reports_of_mem_reported member inside
  · intro position inside
    rw [← tokens] at inside room
    exact copies.covers_all increasing enumerated verified threshold
      settings.windowSize_pos room inside
  · intro spans member
    exact copies.rangesIn_spanGroups increasing enumerated verified member

/-- A text, another one in which it begins a token later, and a copy of the first on more lines. -/
def copiedTexts : List Source :=
  [⟨['a'], .text "1 2 3".toList⟩, ⟨['b'], .text "0 1 2".toList⟩,
    ⟨['c'], .text "1\n# 4\n2 3".toList⟩]

theorem reported_singles_copiedTexts :
    reported noFiles (singles true) Mask.standard copiedTexts =
      [[⟨0, 0, 2⟩, ⟨1, 1, 3⟩, ⟨2, 0, 2⟩], [⟨0, 2, 3⟩, ⟨2, 2, 3⟩]] := by
  rw [reported_eq_grownHeads rfl rfl]
  decide +kernel

-- Two groups cover the copies, and the first of them is a chain that the other text shares.
theorem copied_run_copiedTexts :
    ∃ outcome, run noFiles (singles true) copiedTexts false = .ok outcome ∧
      List.Forall₂ (fun spans group => List.Forall₂ (Reports copiedTexts) spans group.occurrences)
        [[⟨0, 0, 2⟩, ⟨1, 1, 3⟩, ⟨2, 0, 2⟩], [⟨0, 2, 3⟩, ⟨2, 2, 3⟩]] outcome.report.groups ∧
      (∀ position < 3, ∃ spans ∈ reported noFiles (singles true) Mask.standard copiedTexts,
        ∃ span ∈ spans, span.Covers 0 position) ∧
      ∀ spans ∈ reported noFiles (singles true) Mask.standard copiedTexts,
        Span.rangesIn 0 spans = Span.rangesIn 2 spans := by
  rw [← reported_singles_copiedTexts]
  exact @copied_run noFiles copiedTexts _ ⟨singles true, Mask.standard, rfl, rfl⟩ rfl (by decide) 0 2
    (by decide) "1 2 3".toList "1\n# 4\n2 3".toList ⟨_, rfl, rfl⟩ ⟨_, rfl, rfl⟩ (by decide +kernel)
    (by decide +kernel)

end RepeatScan.Detection
