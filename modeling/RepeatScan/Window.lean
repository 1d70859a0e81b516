import RepeatScan.Fingerprint

set_option autoImplicit false

/-! Windows of consecutive tokens. A source is known by its position among the sources of a run. -/

namespace RepeatScan

/-- Some consecutive tokens of a source. -/
structure Window where
  source : Nat
  start : Nat
  size : Nat
  deriving DecidableEq, Repr

/-- The fingerprint of the window that starts at a position. -/
structure WindowPrint where
  start : Nat
  fingerprint : Fingerprint
  deriving DecidableEq, Repr

namespace Window

/-- The position behind the last token of a window. -/
def stop (window : Window) : Nat :=
  window.start + window.size

/-- Windows are ordered by source, then by start, then by size. -/
def precedes (left right : Window) : Bool :=
  left.source < right.source || left.source == right.source &&
    (left.start < right.start || left.start == right.start && left.size ≤ right.size)

/-- The number of windows of a size over a number of tokens. -/
def count (tokens size : Nat) : Nat :=
  if size = 0 then 0 else tokens + 1 - size

theorem count_of_pos {tokens size : Nat} (positive : 0 < size) :
    count tokens size = tokens + 1 - size :=
  if_neg (by omega)

theorem precedes_trans {first second third : Window} (left : first.precedes second = true)
    (right : second.precedes third = true) : first.precedes third = true := by
  simp only [precedes, Bool.or_eq_true, Bool.and_eq_true, decide_eq_true_eq, beq_iff_eq] at *
  omega

theorem precedes_total (left right : Window) :
    (left.precedes right || right.precedes left) = true := by
  simp only [precedes, Bool.or_eq_true, Bool.and_eq_true, decide_eq_true_eq, beq_iff_eq]
  omega

theorem precedes_antisymm {left right : Window} (forward : left.precedes right = true)
    (backward : right.precedes left = true) : left = right := by
  cases left
  cases right
  simp only [precedes, Bool.or_eq_true, Bool.and_eq_true, decide_eq_true_eq, beq_iff_eq] at *
  simp only [mk.injEq]
  omega

theorem source_le_of_precedes {left right : Window} (ordered : left.precedes right = true) :
    left.source ≤ right.source := by
  simp only [precedes, Bool.or_eq_true, Bool.and_eq_true, decide_eq_true_eq,
    beq_iff_eq] at ordered
  omega

theorem start_le_of_precedes {left right : Window} (ordered : left.precedes right = true)
    (same : left.source = right.source) : left.start ≤ right.start := by
  simp only [precedes, Bool.or_eq_true, Bool.and_eq_true, decide_eq_true_eq,
    beq_iff_eq] at ordered
  omega

end Window

end RepeatScan
