import RepeatScan.Mask
import RepeatScan.Platform
import RepeatScan.Settings.Preset
import RepeatScan.Text.Literal

set_option autoImplicit false

/-! The settings of a run, when they can be used, and the mask they ask for. -/

namespace RepeatScan

/-- Everything that a run is told. -/
structure Settings where
  windowSize : Nat
  minOccurrences : Nat
  commentMarkers : List Text
  stripBlocks : Bool
  placeholder : Text
  mergeOverlaps : Bool
  verifyContent : Bool
  streaming : Bool
  maxWorkers : Option Nat
  deriving DecidableEq, Repr

namespace Settings

/-- The settings of a preset: the standard mask, two occurrences, merging and verification. -/
def ofPreset (preset : Preset) : Settings where
  windowSize := preset.windowSize
  minOccurrences := 2
  commentMarkers := Mask.standard.markers
  stripBlocks := Mask.standard.dropsBlocks
  placeholder := Mask.standard.placeholder
  mergeOverlaps := true
  verifyContent := true
  streaming := false
  maxWorkers := none

def standard : Settings := ofPreset .standard

/-- The largest number of workers that may be asked for. -/
def workerLimit : Nat := 1024

def isSolid (text : Text) : Bool :=
  !text.isEmpty && !text.any Text.isBlank

/-- The first fault of the settings, in the order window, placeholder, markers, workers. -/
def fault? (settings : Settings) : Option SettingsError :=
  if settings.windowSize = 0 then
    some (.unusable "window_size".toList "window must contain at least 1 token".toList)
  else if !isSolid settings.placeholder then
    some (.unusable "placeholder".toList
      "placeholder must be non-empty and contain no whitespace".toList)
  else match settings.commentMarkers.find? (!isSolid ·) with
    | some marker =>
        some (.unusable "comment_markers".toList ("marker ".toList ++ Text.literal marker ++
          " must be non-empty and contain no whitespace".toList))
    | none =>
        match settings.maxWorkers with
        | none => none
        | some workers =>
            if 1 ≤ workers ∧ workers ≤ workerLimit then none
            else some (.outOfRange "max_workers".toList (Text.decimal workers) ['1']
              (Text.decimal workerLimit) "Omit max_workers to use the shared pool".toList)

/-- The settings themselves when they have no fault. -/
def check (settings : Settings) : Except SettingsError Settings :=
  match settings.fault? with
  | some error => .error error
  | none => .ok settings

end Settings

namespace Mask

/-- A mask whose comment markers can be compiled. Without markers there is nothing to compile. -/
def build [Platform] (markers : List Text) (dropsBlocks : Bool) (placeholder : Text) :
    Except SettingsError Mask :=
  if markers.isEmpty then .ok ⟨[], dropsBlocks, placeholder⟩
  else match Platform.markersRefused? markers with
    | some wording => .error (.unusable "comment_markers".toList wording)
    | none => .ok ⟨markers, dropsBlocks, placeholder⟩

def ofSettings [Platform] (settings : Settings) : Except SettingsError Mask :=
  build settings.commentMarkers settings.stripBlocks settings.placeholder

end Mask

/-- Settings that can be used, with the mask that they ask for. -/
structure CheckedSettings [Platform] extends Settings where
  mask : Mask
  valid : toSettings.check = .ok toSettings
  built : Mask.ofSettings toSettings = .ok mask

instance [Platform] : Coe CheckedSettings Settings := ⟨CheckedSettings.toSettings⟩

namespace Settings

theorem check_of_fault?_eq_none {settings : Settings} (sound : settings.fault? = none) :
    settings.check = .ok settings := by
  rw [check, sound]

/-- The settings with their mask, or the first reason why they cannot be used. -/
def prepare [Platform] (settings : Settings) : Except SettingsError CheckedSettings :=
  match fault : settings.fault? with
  | some error => .error error
  | none =>
      match built : Mask.ofSettings settings with
      | .error error => .error error
      | .ok mask => .ok ⟨settings, mask, check_of_fault?_eq_none fault, built⟩

end Settings

end RepeatScan
