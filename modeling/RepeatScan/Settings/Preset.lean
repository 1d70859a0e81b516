import RepeatScan.Settings.Error

set_option autoImplicit false

/-! Presets trade noise for sensitivity: the smaller the window, the shorter the fragments that are
found. -/

namespace RepeatScan

/-- The named window sizes. -/
inductive Preset where
  | fast
  | balanced
  | thorough
  deriving DecidableEq, Repr

namespace Preset

def windowSize : Preset → Nat
  | fast => 20
  | balanced => 10
  | thorough => 5

def name : Preset → Text
  | fast => "fast".toList
  | balanced => "balanced".toList
  | thorough => "thorough".toList

def standard : Preset := balanced

/-- The preset of a name, in small or capital letters. -/
def ofName (given : Text) : Except SettingsError Preset :=
  match [fast, balanced, thorough].find? fun preset => preset.name == given.map Char.toLower with
  | some preset => .ok preset
  | none => .error (.unknownPreset given)

end Preset

end RepeatScan
