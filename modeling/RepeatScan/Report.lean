import RepeatScan.Fingerprint
import RepeatScan.LineRange

set_option autoImplicit false

/-! Reports of repeated fragments. An occurrence is a range of tokens of a source and the lines that
they stand on; a group holds the occurrences of one fragment. -/

namespace RepeatScan

/-- One place where a fragment stands. -/
structure Occurrence where
  source : Text
  start : Nat
  stop : Nat
  lines : LineRange
  deriving DecidableEq, Repr

def Occurrence.tokenCount (occurrence : Occurrence) : Nat :=
  occurrence.stop - occurrence.start

def Occurrence.display (occurrence : Occurrence) : Text :=
  occurrence.source ++ " @ tokens ".toList ++ Text.decimal occurrence.start ++ ['.', '.'] ++
    Text.decimal occurrence.stop ++ " (lines ".toList ++ occurrence.lines.display ++ [')']

/-- The occurrences of one fragment. -/
structure Group where
  fingerprint : Fingerprint
  occurrences : List Occurrence
  deriving DecidableEq, Repr

/-- The number of runs of occurrences in one and the same source. -/
def Group.sourceCount (group : Group) : Nat :=
  ((group.occurrences.map (·.source)).splitBy (· == ·)).length

/-- The groups that a run found. -/
structure Report where
  groups : List Group
  deriving DecidableEq, Repr

namespace Report

def empty : Report := ⟨[]⟩

def get? (report : Report) (fingerprint : Fingerprint) : Option Group :=
  report.groups.find? (·.fingerprint = fingerprint)

/-- The number of occurrences in all groups together. -/
def totalOccurrences (report : Report) : Nat :=
  report.groups.foldr (fun group total => group.occurrences.length + total) 0

/-- The groups from one position up to another, if both lie within the report. -/
def slice? (report : Report) (start stop : Nat) : Option (List Group) :=
  if start ≤ stop ∧ stop ≤ report.groups.length then some ((report.groups.take stop).drop start)
  else none

end Report

end RepeatScan
