import RepeatScan.Settings.Basic

set_option autoImplicit false

/-! Settings that can be used. They have no fault, so that a window is not empty and placeholder and
markers are solid, and their mask is made of what they say. -/

namespace RepeatScan

namespace Settings

variable {settings : Settings}

theorem isSolid_iff {text : Text} :
    isSolid text = true ↔ text ≠ [] ∧ ∀ character ∈ text, Text.isBlank character = false := by
  simp [isSolid]

theorem newline_not_mem {text : Text} (solid : isSolid text = true) : '\n' ∉ text := by
  intro inside
  have plain := (isSolid_iff.mp solid).2 '\n' inside
  cases plain

theorem fault?_eq_none_of_check (valid : settings.check = .ok settings) :
    settings.fault? = none := by
  unfold check at valid
  cases fault : settings.fault? with
  | none => rfl
  | some error =>
      rw [fault] at valid
      cases valid

theorem windowSize_pos_of_fault? (faultless : settings.fault? = none) : 0 < settings.windowSize := by
  unfold fault? at faultless
  by_cases none : settings.windowSize = 0
  · rw [if_pos none] at faultless
    cases faultless
  · exact Nat.pos_of_ne_zero none

/-- Settings without a fault name a solid placeholder and solid markers. -/
theorem solid_of_fault? (faultless : settings.fault? = none) :
    isSolid settings.placeholder = true ∧
      ∀ marker ∈ settings.commentMarkers, isSolid marker = true := by
  have positive := windowSize_pos_of_fault? faultless
  unfold fault? at faultless
  rw [if_neg (Nat.pos_iff_ne_zero.mp positive)] at faultless
  split at faultless
  · cases faultless
  · rename_i solid
    split at faultless
    · cases faultless
    · rename_i none
      constructor
      · simpa using solid
      · simpa using none

theorem prepare_of_fault [Platform] {error : SettingsError}
    (fault : settings.fault? = some error) : settings.prepare = .error error := by
  unfold prepare
  split
  next other found => rw [Option.some.inj (found.symm.trans fault)]
  next sound =>
      rw [fault] at sound
      cases sound

theorem prepare_of_refused [Platform] {error : SettingsError} (sound : settings.fault? = none)
    (refused : Mask.ofSettings settings = .error error) : settings.prepare = .error error := by
  unfold prepare
  split
  next other found =>
      rw [sound] at found
      cases found
  next =>
      split
      next other found => rw [Except.error.inj (found.symm.trans refused)]
      next mask found =>
          rw [refused] at found
          cases found

end Settings

theorem Mask.eq_of_build [Platform] {mask : Mask} {markers : List Text} {dropsBlocks : Bool}
    {placeholder : Text} (built : build markers dropsBlocks placeholder = .ok mask) :
    mask = ⟨markers, dropsBlocks, placeholder⟩ := by
  unfold build at built
  split at built
  next none => rw [← Except.ok.inj built, List.isEmpty_iff.mp none]
  next =>
      split at built
      next => cases built
      next => exact (Except.ok.inj built).symm

namespace CheckedSettings

variable [Platform] (settings : CheckedSettings)

theorem fault?_eq_none : settings.fault? = none :=
  Settings.fault?_eq_none_of_check settings.valid

theorem windowSize_pos : 0 < settings.windowSize :=
  Settings.windowSize_pos_of_fault? settings.fault?_eq_none

theorem mask_eq :
    settings.mask = ⟨settings.commentMarkers, settings.stripBlocks, settings.placeholder⟩ :=
  Mask.eq_of_build settings.built

theorem solid_placeholder : Settings.isSolid settings.mask.placeholder = true := by
  rw [settings.mask_eq]
  exact (Settings.solid_of_fault? settings.fault?_eq_none).1

theorem solid_markers : ∀ marker ∈ settings.mask.markers, Settings.isSolid marker = true := by
  rw [settings.mask_eq]
  exact (Settings.solid_of_fault? settings.fault?_eq_none).2

/-- Settings that can be used are what they were prepared from. -/
theorem prepare_eq : settings.toSettings.prepare = .ok settings := by
  unfold Settings.prepare
  split
  next error fault =>
      rw [settings.fault?_eq_none] at fault
      cases fault
  next =>
      split
      next error refused =>
          rw [settings.built] at refused
          cases refused
      next mask found =>
          obtain rfl := Except.ok.inj (found.symm.trans settings.built)
          rfl

/-- Other settings can be used as well if they have the same faults and the same mask. -/
def amend (other : Settings) (faults : other.fault? = settings.fault?)
    (alike : Mask.ofSettings other = Mask.ofSettings settings) : CheckedSettings where
  toSettings := other
  mask := settings.mask
  valid := Settings.check_of_fault?_eq_none (faults.trans settings.fault?_eq_none)
  built := alike.trans settings.built

end CheckedSettings

end RepeatScan
