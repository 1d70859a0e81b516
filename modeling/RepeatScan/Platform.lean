import RepeatScan.Text.Utf8

set_option autoImplicit false

/-! What a run leaves to the machine below it: the engine that compiles comment markers, and the
system that starts workers. Each may refuse what it is asked for, and then says why. -/

namespace RepeatScan

/-- The refusals of the machine, with their wording. -/
class Platform where
  markersRefused? (markers : List Text) : Option Text
  workersRefused? (workers : Nat) : Option Text

namespace Platform

/-- The room that compiled comment markers may take, in bytes. -/
def markerRoom : Nat := 10485760

/-- About the room that each byte of a marker takes once compiled. -/
def roomPerByte : Nat := 40

/-- The machine that the program is run with. How large markers become is only estimated, and nothing
rests on the estimate: what holds of runs holds on every machine. -/
instance usual : Platform where
  markersRefused? markers :=
    if roomPerByte * Utf8.byteLength markers.flatten ≤ markerRoom then none
    else some "Compiled regex exceeds size limit of 10485760 bytes.".toList
  workersRefused? _ := none

end Platform

end RepeatScan
