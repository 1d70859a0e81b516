import RepeatScan.Window

set_option autoImplicit false

/-! Buckets of windows. A bucket holds the windows of one fingerprint in order, and buckets are
ordered by their first window and then by fingerprint. -/

namespace RepeatScan

/-- The windows of one fingerprint, of which there is at least one. -/
structure Bucket where
  fingerprint : Fingerprint
  first : Window
  others : List Window
  deriving DecidableEq, Repr

namespace Bucket

def windows (bucket : Bucket) : List Window :=
  bucket.first :: bucket.others

/-- A bucket of some windows in order, if there are any. -/
def ofWindows? (fingerprint : Fingerprint) (windows : List Window) : Option Bucket :=
  match windows.mergeSort Window.precedes with
  | [] => none
  | first :: others => some ⟨fingerprint, first, others⟩

/-- Buckets are ordered by first window, and by fingerprint where that is the same. -/
def precedes (left right : Bucket) : Bool :=
  if left.first = right.first then left.fingerprint.precedes right.fingerprint
  else left.first.precedes right.first

/-- The buckets, in order, of windows that were collected by fingerprint in any order. -/
def ofEntries (entries : List (Fingerprint × List Window)) : List Bucket :=
  (entries.filterMap fun entry => ofWindows? entry.1 entry.2).mergeSort precedes

@[simp]
theorem length_windows (bucket : Bucket) : bucket.windows.length = bucket.others.length + 1 := rfl

end Bucket

end RepeatScan
