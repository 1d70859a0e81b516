import RepeatScan.Bucket

set_option autoImplicit false

/-! Collecting windows by fingerprint. A tally takes windows one at a time and counts how many it was
told about; its buckets do not depend on the order in which they came. -/

namespace RepeatScan

/-- Windows collected by fingerprint, with the number that was announced. -/
structure Tally where
  entries : List (Fingerprint × List Window)
  counted : Nat
  deriving DecidableEq, Repr

namespace Tally

def empty : Tally := ⟨[], 0⟩

/-- Adds a window to the entry of its fingerprint, or opens an entry for it. -/
def place (fingerprint : Fingerprint) (window : Window) :
    List (Fingerprint × List Window) → List (Fingerprint × List Window)
  | [] => [(fingerprint, [window])]
  | (known, windows) :: later =>
      if known = fingerprint then (known, window :: windows) :: later
      else (known, windows) :: place fingerprint window later

/-- A single change to a tally. -/
inductive Step where
  | push (fingerprint : Fingerprint) (window : Window)
  | announce (windows : Nat)
  deriving DecidableEq, Repr

def step (tally : Tally) : Step → Tally
  | .push fingerprint window => { tally with entries := place fingerprint window tally.entries }
  | .announce windows => { tally with counted := tally.counted + windows }

def run (tally : Tally) (steps : List Step) : Tally :=
  steps.foldl step tally

/-- What one source contributes: its windows in order, and then their number. -/
def stepsOf (size source : Nat) (windows : List WindowPrint) : List Step :=
  windows.map (fun window => .push window.fingerprint ⟨source, window.start, size⟩) ++
    [.announce windows.length]

def insert (tally : Tally) (size source : Nat) (windows : List WindowPrint) : Tally :=
  tally.run (stepsOf size source windows)

def buckets (tally : Tally) : List Bucket :=
  Bucket.ofEntries tally.entries

theorem run_append (tally : Tally) (earlier later : List Step) :
    tally.run (earlier ++ later) = (tally.run earlier).run later :=
  List.foldl_append

end Tally

end RepeatScan
