import RepeatScan.Settings.Basic

set_option autoImplicit false

/-! Changes to settings. A patch names some of the fields and leaves the others alone; a settings
file names a version, a preset to start from, and a patch. -/

namespace RepeatScan

/-- New values for some of the fields of the settings. -/
structure SettingsPatch where
  windowSize : Option Nat
  minOccurrences : Option Nat
  commentMarkers : Option (List Text)
  stripBlocks : Option Bool
  placeholder : Option Text
  mergeOverlaps : Option Bool
  verifyContent : Option Bool
  streaming : Option Bool
  maxWorkers : Option Nat
  deriving DecidableEq, Repr

namespace SettingsPatch

def empty : SettingsPatch :=
  ⟨none, none, none, none, none, none, none, none, none⟩

/-- The patch that names every field of some settings that has a value. -/
def ofSettings (settings : Settings) : SettingsPatch where
  windowSize := some settings.windowSize
  minOccurrences := some settings.minOccurrences
  commentMarkers := some settings.commentMarkers
  stripBlocks := some settings.stripBlocks
  placeholder := some settings.placeholder
  mergeOverlaps := some settings.mergeOverlaps
  verifyContent := some settings.verifyContent
  streaming := some settings.streaming
  maxWorkers := settings.maxWorkers

def apply (patch : SettingsPatch) (settings : Settings) : Settings where
  windowSize := patch.windowSize.getD settings.windowSize
  minOccurrences := patch.minOccurrences.getD settings.minOccurrences
  commentMarkers := patch.commentMarkers.getD settings.commentMarkers
  stripBlocks := patch.stripBlocks.getD settings.stripBlocks
  placeholder := patch.placeholder.getD settings.placeholder
  mergeOverlaps := patch.mergeOverlaps.getD settings.mergeOverlaps
  verifyContent := patch.verifyContent.getD settings.verifyContent
  streaming := patch.streaming.getD settings.streaming
  maxWorkers := patch.maxWorkers.or settings.maxWorkers

end SettingsPatch

/-- What a settings file says. -/
structure SettingsFile where
  version : Option Nat
  preset : Option Text
  overrides : Option SettingsPatch
  deriving DecidableEq, Repr

namespace SettingsFile

def supportedVersions : List Nat := [1]

def ofSettings (settings : Settings) : SettingsFile :=
  ⟨some 1, none, some (.ofSettings settings)⟩

/-- The settings that a file asks for: its version has to be supported, its preset known, and the
result without fault. -/
def settings (file : SettingsFile) : Except SettingsError Settings := do
  let version ← file.version.elim (.error .missingVersion) .ok
  if !supportedVersions.contains version then
    throw (.unsupportedVersion version supportedVersions)
  let preset ← file.preset.elim (.ok .standard) Preset.ofName
  ((file.overrides.getD .empty).apply (.ofPreset preset)).check

end SettingsFile

end RepeatScan
