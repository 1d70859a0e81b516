import Mathlib.Order.Monotone.Basic
import RepeatScan.Proofs.Detection.Readable
import RepeatScan.Proofs.Grouping.Idle
import RepeatScan.Proofs.Grouping.Renumbering

set_option autoImplicit false

/-! Sources that cannot be used. One that cannot be read gives a diagnostic and one that is too
short gives no window; both leave a gap in the numbers of the sources, and neither shows in the
report. -/

namespace RepeatScan.Detection

variable {surroundings : Surroundings} {settings : Settings} {mask : Mask} {sources : List Source}

/-- A source that can be read and has room for a window. -/
def usable (surroundings : Surroundings) (settings : Settings) (mask : Mask) (source : Source) :
    Bool :=
  match source.origin.load surroundings.files with
  | .ok text => settings.windowSize ≤ (mask.tokenStream text).length
  | .error _ => false

def diagnostic? (files : FileTree) (source : Source) : Option Diagnostic :=
  match source.origin.load files with
  | .ok _ => none
  | .error error => some ⟨source.id, error⟩

/-- Filtering keeps the order, so the positions of the items that are kept grow with their new ones.
-/
theorem exists_zipIdx_filter {Item : Type} (keep : Item → Bool) (items : List Item) (start : Nat) :
    ∃ place : Nat → Nat, StrictMono place ∧ start ≤ place 0 ∧
      (items.filter keep).zipIdx.map (Prod.map id place) =
        (items.zipIdx start).filter fun entry => keep entry.1 := by
  induction items generalizing start with
  | nil =>
      exact ⟨(start + ·), fun _ _ less => Nat.add_lt_add_left less start, Nat.le_refl _, rfl⟩
  | cons item later ih =>
      obtain ⟨place, increasing, behind, same⟩ := ih (start + 1)
      rw [List.zipIdx_cons]
      by_cases kept : keep item = true
      · refine ⟨fun | 0 => start | position + 1 => place position, ?_, Nat.le_refl _, ?_⟩
        · apply strictMono_nat_of_lt_succ
          intro position
          cases position with
          | zero => exact behind
          | succ position => exact increasing (Nat.lt_succ_self position)
        · rw [List.filter_cons_of_pos kept,
            List.filter_cons_of_pos (p := fun entry : Item × Nat => keep entry.1) kept, ← same,
            List.zipIdx_cons, List.map_cons, List.zipIdx_succ, List.map_map]
          rfl
      · refine ⟨place, increasing, Nat.le_of_succ_le behind, ?_⟩
        rw [List.filter_cons_of_neg kept,
          List.filter_cons_of_neg (p := fun entry : Item × Nat => keep entry.1) kept]
        exact same

/-! ### What came of each source -/

theorem readable_eq_filterMap (surroundings : Surroundings) (settings : Settings) (mask : Mask)
    (sources : List Source) :
    readable surroundings settings mask sources = sources.zipIdx.filterMap fun entry =>
      (scan surroundings.files mask settings.windowSize entry.1 entry.2).toOption := by
  unfold readable scanned scanAll
  rw [List.filterMap_map]
  apply List.filterMap_congr
  intro entry _
  rw [Function.comp_apply]
  cases scan surroundings.files mask settings.windowSize entry.1 entry.2 with
  | ok found => rfl
  | error diagnostic => rfl

theorem diagnostics_scanAll (files : FileTree) (size : Nat) :
    diagnostics (scanAll files mask size sources) = sources.filterMap (diagnostic? files) := by
  unfold diagnostics scanAll
  rw [List.filterMap_map]
  conv => rhs; rw [← List.zipIdx_map_fst 0 sources, List.filterMap_map]
  apply List.filterMap_congr
  intro entry _
  rw [Function.comp_apply, Function.comp_apply]
  unfold scan diagnostic?
  cases entry.1.origin.load files with
  | ok text => rfl
  | error error => rfl

theorem length_scanned_add_length_diagnostics
    (outcomes : List (Except Diagnostic ScannedSource)) :
    (scanned outcomes).length + (diagnostics outcomes).length = outcomes.length := by
  induction outcomes with
  | nil => rfl
  | cons outcome later ih =>
      unfold scanned diagnostics at ih ⊢
      cases outcome with
      | ok found =>
          simp only [List.filterMap_cons, List.length_cons]
          omega
      | error diagnostic =>
          simp only [List.filterMap_cons, List.length_cons]
          omega

theorem renumber_scan (files : FileTree) (size : Nat) (place : Nat → Nat) (source : Source)
    (index : Nat) :
    (scan files mask size source index).toOption.map (·.renumber place) =
      (scan files mask size source (place index)).toOption := by
  unfold scan
  cases source.origin.load files with
  | ok text => rfl
  | error error => rfl

theorem filter_busy_scan (positive : 0 < settings.windowSize) (source : Source) (index : Nat) :
    (scan surroundings.files mask settings.windowSize source index).toOption.filter Grouping.busy =
      if usable surroundings settings mask source then
        (scan surroundings.files mask settings.windowSize source index).toOption
      else none := by
  unfold scan usable
  cases source.origin.load surroundings.files with
  | error error => rfl
  | ok text =>
      have count : (Fingerprint.windows settings.windowSize (mask.tokenStream text).tokens).length =
          (mask.tokenStream text).length + 1 - settings.windowSize := by
        rw [windows_eq_listing, Grouping.listing, List.length_map, List.length_range,
          Window.count_of_pos positive]
      have room : Grouping.busy ⟨index, source.id, mask.tokenStream text,
          Fingerprint.windows settings.windowSize (mask.tokenStream text).tokens⟩ =
            decide (settings.windowSize ≤ (mask.tokenStream text).length) := by
        apply Bool.eq_iff_iff.mpr
        rw [Grouping.busy, Bool.not_eq_true', List.isEmpty_eq_false_iff, ← List.length_pos_iff,
          count, decide_eq_true_eq]
        omega
      change Option.filter _ (some _) = _
      rw [Option.filter_some, room]
      rfl

/-- The sources of a run that have windows are those that a run over the usable ones reads, under
other numbers in the same order. -/
theorem exists_readable_usable (positive : 0 < settings.windowSize) (sources : List Source) :
    ∃ place : Nat → Nat, StrictMono place ∧
      (readable surroundings settings mask
          (sources.filter (usable surroundings settings mask))).map (·.renumber place) =
        (readable surroundings settings mask sources).filter Grouping.busy := by
  obtain ⟨place, increasing, _, same⟩ :=
    exists_zipIdx_filter (usable surroundings settings mask) sources 0
  refine ⟨place, increasing, ?_⟩
  rw [readable_eq_filterMap, readable_eq_filterMap, List.map_filterMap, List.filter_filterMap]
  simp only [renumber_scan, filter_busy_scan positive]
  rw [← List.filterMap_filter, ← same, List.filterMap_map]
  rfl

/-- Sources that cannot be used do not show in the report of a run. -/
theorem report_usable (positive : 0 < settings.windowSize) (sources : List Source) :
    (conclusion tally surroundings settings mask sources).report =
      (conclusion tally surroundings settings mask
        (sources.filter (usable surroundings settings mask))).report := by
  obtain ⟨place, increasing, same⟩ := exists_readable_usable positive sources
  rw [report_conclusion, report_conclusion,
    ← Grouping.reportOf_busy (distinct_readable surroundings settings mask sources), ← same]
  exact (enumerated_readable surroundings settings mask _).reportOf_renumber increasing

/-- A run succeeds whatever sources it is given. Those that cannot be read or are too short leave
its report as it would be without them; the ones that cannot be read have a diagnostic each, in the
order of the input, and are counted as skipped. -/
theorem skipping_run [Platform] (settings : CheckedSettings) :
    ∃ outcome good, run surroundings settings sources false = .ok outcome ∧
      run surroundings settings
          (sources.filter (usable surroundings settings settings.mask)) false = .ok good ∧
        outcome.report = good.report ∧
        outcome.diagnostics = sources.filterMap (diagnostic? surroundings.files) ∧
        outcome.statistics.sourcesGiven = sources.length ∧
        outcome.statistics.sourcesGiven =
          outcome.statistics.sourcesAnalyzed + outcome.statistics.sourcesSkipped ∧
        outcome.statistics.sourcesSkipped = outcome.diagnostics.length := by
  refine ⟨_, _, runBy_of_valid tally settings, runBy_of_valid tally settings, ?_, ?_, ?_, ?_,
    rfl⟩
  · exact report_usable settings.windowSize_pos sources
  · exact diagnostics_scanAll surroundings.files settings.windowSize
  · change (List.map _ _).length = _
    rw [List.length_map, List.length_zipIdx]
  · exact (length_scanned_add_length_diagnostics _).symm

/-- The two texts, one behind a source that is no text and the other behind one without tokens. -/
def spoiledTexts : List Source :=
  [⟨['x'], .bytes ⟨#[0x31, 0xFF]⟩⟩, ⟨['a'], .text "1 2".toList⟩, ⟨['e'], .text []⟩,
    ⟨['b'], .text "0\n1 2".toList⟩]

theorem usable_spoiledTexts :
    spoiledTexts.filter (usable noFiles (singles true) Mask.standard) = twoTexts := by
  decide +kernel

theorem skipping_run_spoiledTexts :
    ∃ outcome good, run noFiles (singles true) spoiledTexts false = .ok outcome ∧
      run noFiles (singles true) twoTexts false = .ok good ∧ outcome.report = good.report ∧
        outcome.diagnostics = [⟨['x'], .undecodable 1⟩] ∧
        outcome.statistics.sourcesAnalyzed + outcome.statistics.sourcesSkipped = 4 := by
  obtain ⟨outcome, good, ran, ranGood, report, diagnostics, given, counts, _⟩ :=
    @skipping_run noFiles spoiledTexts _ ⟨singles true, Mask.standard, rfl, rfl⟩
  rw [usable_spoiledTexts] at ranGood
  refine ⟨outcome, good, ran, ranGood, report, diagnostics.trans ?_, counts.symm.trans given⟩
  decide +kernel

end RepeatScan.Detection
