import RepeatScan.Window

set_option autoImplicit false

/-! Spans of tokens. Windows of one source that overlap or touch are merged into one span. -/

namespace RepeatScan

/-- The tokens of a source from a start up to a stop that is no longer included. -/
structure Span where
  source : Nat
  start : Nat
  stop : Nat
  deriving DecidableEq, Repr

namespace Span

def ofWindow (window : Window) : Span :=
  ⟨window.source, window.start, window.stop⟩

def shift (offset : Nat) (span : Span) : Span :=
  ⟨span.source, span.start + offset, span.stop + offset⟩

def extend (offset : Nat) (span : Span) : Span :=
  { span with stop := span.stop + offset }

/-- Merges windows into the span that is still open. -/
def mergeFrom (current : Span) : List Window → List Span
  | [] => [current]
  | window :: later =>
      if current.source = window.source ∧ window.start ≤ current.stop then
        mergeFrom { current with stop := max current.stop window.stop } later
      else current :: mergeFrom (ofWindow window) later

/-- The spans of windows in order, those that overlap or touch the one before merged into it. -/
def merge : List Window → List Span
  | [] => []
  | window :: later => mergeFrom (ofWindow window) later

def separate (windows : List Window) : List Span :=
  windows.map ofWindow

theorem shift_shift (first second : Nat) (span : Span) :
    (span.shift first).shift second = span.shift (first + second) := by
  simp [shift, Nat.add_assoc]

end Span

end RepeatScan
