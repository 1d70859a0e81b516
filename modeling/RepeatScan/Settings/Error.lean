import RepeatScan.ReadFailure
import RepeatScan.Text.Decimal

set_option autoImplicit false

/-! What can be wrong with settings, and how each fault is worded. -/

namespace RepeatScan

/-- Why settings cannot be used. -/
inductive SettingsError where
  | outOfRange (field value low high hint : Text)
  | unusable (field reason : Text)
  | missingVersion
  | unsupportedVersion (found : Nat) (supported : List Nat)
  | unknownPreset (name : Text)
  | unreadable (failure : ReadFailure)
  | malformed
  | other (wording : Text)
  deriving DecidableEq, Repr

def SettingsError.message : SettingsError → Text
  | .outOfRange field value low high hint =>
      "Invalid range for field '".toList ++ field ++ "': ".toList ++ value ++ " not in ".toList ++
        low ++ "..=".toList ++ high ++ ". ".toList ++ hint
  | .unusable field reason =>
      "Invalid value for field '".toList ++ field ++ "': ".toList ++ reason
  | .missingVersion =>
      ("Missing 'version' field in configuration file. " ++
        "Add 'version: 1' to the top of your YAML file.").toList
  | .unsupportedVersion found supported =>
      "Unsupported configuration version ".toList ++ Text.decimal found ++
        ". Supported versions: ".toList ++ [',', ' '].intercalate (supported.map Text.decimal)
  | .unknownPreset name =>
      "Unknown preset '".toList ++ name ++ "'. Valid presets: fast, balanced, thorough".toList
  | .unreadable failure => "IO error: ".toList ++ failure.message
  | .malformed => "YAML parsing error:".toList
  | .other wording => wording

end RepeatScan
