import RepeatScan.Json.Decode
import RepeatScan.Settings.Patch

set_option autoImplicit false

/-! Settings and patches from JSON. Settings may leave fields out, and have other members; a patch has
no other members, and takes null for a field that it leaves alone. -/

namespace RepeatScan.Json

namespace Node

/-- Reads a value, or passes by where null is allowed. -/
def readField {α : Type} (nullable : Bool) (read : Node → Except ReadError α) (node : Node) :
    Except ReadError (Option α) :=
  if nullable then node.readOption read else (read node).map some

def settingsFields (nullable : Bool) : List (Field SettingsPatch) :=
  [ ⟨"window_size".toList, fun node patch => do
      return { patch with windowSize := ← readField nullable (readNat UInt64.size) node }⟩,
    ⟨"min_occurrences".toList, fun node patch => do
      return { patch with minOccurrences := ← readField nullable (readNat UInt64.size) node }⟩,
    ⟨"comment_markers".toList, fun node patch => do
      return { patch with commentMarkers := ← readField nullable (readList readText) node }⟩,
    ⟨"strip_block_comments".toList, fun node patch => do
      return { patch with stripBlocks := ← readField nullable readBool node }⟩,
    ⟨"placeholder".toList, fun node patch => do
      return { patch with placeholder := ← readField nullable readText node }⟩,
    ⟨"merge_overlapping".toList, fun node patch => do
      return { patch with mergeOverlaps := ← readField nullable readBool node }⟩,
    ⟨"verify_content".toList, fun node patch => do
      return { patch with verifyContent := ← readField nullable readBool node }⟩,
    ⟨"streaming".toList, fun node patch => do
      return { patch with streaming := ← readField nullable readBool node }⟩,
    ⟨"max_workers".toList, fun node patch => do
      return { patch with maxWorkers := ← node.readOption (readNat UInt64.size) }⟩ ]

/-- Reads settings; fields that are left out have their standard values. -/
def readSettings (node : Node) : Except ReadError Settings :=
  (readRecord ⟨false, false, false⟩ (settingsFields false) .empty node).map (·.apply .standard)

def readPatch (node : Node) : Except ReadError SettingsPatch :=
  readRecord ⟨true, false, true⟩ (settingsFields true) .empty node

end Node

end RepeatScan.Json
