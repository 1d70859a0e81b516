import RepeatScan.Json.Decode
import RepeatScan.Json.Value
import RepeatScan.Report

set_option autoImplicit false

/-! Reports as JSON. Positions have 64 bits and line numbers 32; fingerprints are texts. -/

namespace RepeatScan.Json

def ofLineRange (range : LineRange) : Value :=
  .object [("start_line".toList, .number range.first), ("end_line".toList, .number range.last)]

def ofOccurrence (occurrence : Occurrence) : Value :=
  .object
    [ ("source".toList, .string occurrence.source),
      ("startToken".toList, .number occurrence.start),
      ("endToken".toList, .number occurrence.stop),
      ("lines".toList, ofLineRange occurrence.lines) ]

def ofGroup (group : Group) : Value :=
  .object
    [ ("fingerprint".toList, .string group.fingerprint.display),
      ("occurrences".toList, .array (group.occurrences.map ofOccurrence)) ]

def ofReport (report : Report) : Value :=
  .object [("templates".toList, .array (report.groups.map ofGroup))]

/-- The rule for records of which every field has to be there and others are passed over. -/
def complete : RecordRule := ⟨false, true, true⟩

namespace Node

def readLineRange : Node → Except ReadError LineRange :=
  readRecord complete
    [ ⟨"start_line".toList, fun node range => do
        return { range with first := ← node.readNat UInt32.size }⟩,
      ⟨"end_line".toList, fun node range => do
        return { range with last := ← node.readNat UInt32.size }⟩ ]
    .zero

def readOccurrence : Node → Except ReadError Occurrence :=
  readRecord complete
    [ ⟨"source".toList, fun node occurrence => do
        return { occurrence with source := ← node.readText }⟩,
      ⟨"startToken".toList, fun node occurrence => do
        return { occurrence with start := ← node.readNat UInt64.size }⟩,
      ⟨"endToken".toList, fun node occurrence => do
        return { occurrence with stop := ← node.readNat UInt64.size }⟩,
      ⟨"lines".toList, fun node occurrence => do
        return { occurrence with lines := ← node.readLineRange }⟩ ]
    ⟨[], 0, 0, .zero⟩

def readGroup : Node → Except ReadError Group :=
  readRecord complete
    [ ⟨"fingerprint".toList, fun node group => do
        return { group with fingerprint := ← node.readFingerprint }⟩,
      ⟨"occurrences".toList, fun node group => do
        return { group with occurrences := ← node.readList readOccurrence }⟩ ]
    ⟨⟨0⟩, []⟩

def readReport : Node → Except ReadError Report :=
  readRecord complete
    [ ⟨"templates".toList, fun node report => do
        return { report with groups := ← node.readList readGroup }⟩ ]
    .empty

end Node

end RepeatScan.Json
