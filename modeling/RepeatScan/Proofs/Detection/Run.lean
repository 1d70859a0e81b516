import RepeatScan.Detection
import RepeatScan.Proofs.Settings

set_option autoImplicit false

/-! What a run does, in one equation: it fails on settings that cannot be used, on markers that are
refused and when cancelled, and otherwise concludes from what came of the sources. -/

namespace RepeatScan.Detection

variable {surroundings : Surroundings} {settings : Settings} {mask : Mask} {sources : List Source}

/-- The sources of a run that can be read, with their tokens and windows. -/
def readable (surroundings : Surroundings) (settings : Settings) (mask : Mask)
    (sources : List Source) : List ScannedSource :=
  scanned (scanAll surroundings.files mask settings.windowSize sources)

def conclusion (collect : Settings → List ScannedSource → Tally) (surroundings : Surroundings)
    (settings : Settings) (mask : Mask) (sources : List Source) : Outcome :=
  conclude surroundings settings (scanAll surroundings.files mask settings.windowSize sources)
    (collect settings (readable surroundings settings mask sources))

theorem runBy_eq [Platform] (collect : Settings → List ScannedSource → Tally)
    (surroundings : Surroundings) (settings : Settings) (sources : List Source)
    (cancelled : Bool) :
    runBy collect surroundings settings sources cancelled =
      match settings.fault? with
      | some error => .error (.invalidSettings error)
      | none =>
          match Mask.ofSettings settings with
          | .error error => .error (.invalidSettings error)
          | .ok mask =>
              if cancelled then .error .cancelled
              else .ok (conclusion collect surroundings settings mask sources) := by
  unfold runBy
  cases fault : settings.fault? with
  | some error =>
      rw [Settings.prepare_of_fault fault]
      rfl
  | none =>
      cases built : Mask.ofSettings settings with
      | error error =>
          rw [Settings.prepare_of_refused fault built]
          rfl
      | ok mask =>
          rw [CheckedSettings.prepare_eq
            ⟨settings, mask, Settings.check_of_fault?_eq_none fault, built⟩]
          cases cancelled with
          | true => rfl
          | false => rfl

theorem runBy_of_valid [Platform] (collect : Settings → List ScannedSource → Tally)
    (settings : CheckedSettings) :
    runBy collect surroundings settings sources false =
      .ok (conclusion collect surroundings settings settings.mask sources) := by
  rw [runBy_eq, settings.fault?_eq_none, settings.built]
  rfl

theorem hire_of_none [Platform] (hired : settings.maxWorkers.bind Platform.workersRefused? = none) :
    hire settings = .ok () := by
  rw [hire, hired]

theorem hire_of_some [Platform] {wording : Text}
    (refused : settings.maxWorkers.bind Platform.workersRefused? = some wording) :
    hire settings = .error (.noWorkers wording) := by
  rw [hire, refused]

/-- Where the workers that settings ask for can start, a run that hires them is the run itself. -/
theorem runHired_of_none [Platform] (surroundings : Surroundings) (sources : List Source)
    (cancelled : Bool) (hired : settings.maxWorkers.bind Platform.workersRefused? = none) :
    runHired surroundings settings sources cancelled =
      run surroundings settings sources cancelled := by
  unfold runHired
  rw [hire_of_none hired]
  rfl

/-- Where they cannot, settings that can be used give the reason, cancelled or not. -/
theorem runHired_of_some [Platform] (surroundings : Surroundings) (settings : CheckedSettings)
    (sources : List Source) (cancelled : Bool) {wording : Text}
    (refused : settings.maxWorkers.bind Platform.workersRefused? = some wording) :
    runHired surroundings settings sources cancelled = .error (.noWorkers wording) := by
  unfold runHired
  rw [settings.prepare_eq, hire_of_some refused]
  rfl

/-- A run that gives something is not cancelled and has settings that can be used. -/
theorem exists_mask_of_runBy [Platform] {collect : Settings → List ScannedSource → Tally}
    {cancelled : Bool} {outcome : Outcome}
    (ran : runBy collect surroundings settings sources cancelled = .ok outcome) :
    ∃ mask, Mask.ofSettings settings = .ok mask ∧
      outcome = conclusion collect surroundings settings mask sources := by
  rw [runBy_eq] at ran
  cases fault : settings.fault? with
  | some error =>
      rw [fault] at ran
      cases ran
  | none =>
      rw [fault] at ran
      cases built : Mask.ofSettings settings with
      | error error =>
          rw [built] at ran
          cases ran
      | ok mask =>
          rw [built] at ran
          cases cancelled with
          | true => cases ran
          | false => exact ⟨mask, rfl, (Except.ok.inj ran).symm⟩

/-! ### What came of the sources -/

/-- A source is scanned as soon as its text can be had. -/
theorem scan_eq_ok_iff {files : FileTree} {size index : Nat} {given : Source}
    {found : ScannedSource} :
    scan files mask size given index = .ok found ↔
      ∃ text, given.origin.load files = .ok text ∧
        found = ⟨index, given.id, mask.tokenStream text,
          Fingerprint.windows size (mask.tokenStream text).tokens⟩ := by
  unfold scan
  cases loaded : given.origin.load files with
  | error failure =>
      constructor
      · intro impossible
        cases impossible
      · rintro ⟨text, impossible, _⟩
        cases impossible
  | ok text =>
      constructor
      · intro result
        exact ⟨text, rfl, (Except.ok.inj result).symm⟩
      · rintro ⟨other, same, rfl⟩
        obtain rfl := Except.ok.inj same
        rfl

theorem mem_readable {found : ScannedSource} :
    found ∈ readable surroundings settings mask sources ↔
      ∃ entry ∈ sources.zipIdx,
        scan surroundings.files mask settings.windowSize entry.1 entry.2 = .ok found := by
  unfold readable scanned scanAll
  rw [List.filterMap_map, List.mem_filterMap]
  apply exists_congr
  intro entry
  apply and_congr_right
  intro _
  rw [Function.comp_apply]
  cases scan surroundings.files mask settings.windowSize entry.1 entry.2 with
  | error diagnostic => simp
  | ok other => simp

theorem windows_of_mem_readable {found : ScannedSource}
    (member : found ∈ readable surroundings settings mask sources) :
    found.windows = Fingerprint.windows settings.windowSize found.tokens.tokens := by
  obtain ⟨entry, _, result⟩ := mem_readable.mp member
  obtain ⟨text, _, rfl⟩ := scan_eq_ok_iff.mp result
  rfl

/-- Readable sources keep the order of the input. -/
theorem index_readable_increasing (surroundings : Surroundings) (settings : Settings) (mask : Mask)
    (sources : List Source) :
    ((readable surroundings settings mask sources).map (·.index)).Pairwise (· < ·) := by
  have sublist : ((readable surroundings settings mask sources).map (·.index)).Sublist
      (sources.zipIdx.map (·.2)) := by
    unfold readable scanned scanAll
    generalize sources.zipIdx = entries
    induction entries with
    | nil => exact List.Sublist.slnil
    | cons entry later ih =>
        rw [List.map_cons, List.map_cons]
        cases result : scan surroundings.files mask settings.windowSize entry.1 entry.2 with
        | error diagnostic => exact ih.cons _
        | ok found =>
            obtain ⟨text, _, rfl⟩ := scan_eq_ok_iff.mp result
            exact ih.cons_cons _
  rw [List.zipIdx_map_snd] at sublist
  exact List.Pairwise.sublist sublist List.pairwise_lt_range'

/-! ### A small run -/

def noFiles : Surroundings := ⟨.empty, 1⟩

/-- Two texts that share two tokens. -/
def twoTexts : List Source :=
  [⟨['a'], .text "1 2".toList⟩, ⟨['b'], .text "0\n1 2".toList⟩]

/-- The standard settings for windows of a single token. -/
def singles (merging : Bool) : Settings :=
  { Settings.standard with windowSize := 1, mergeOverlaps := merging }

end RepeatScan.Detection
