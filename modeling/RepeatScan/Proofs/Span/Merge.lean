import Mathlib.Data.List.Basic
import RepeatScan.Span

set_option autoImplicit false

/-! Merged spans. Merging keeps the first start and never makes more spans than there were windows. Of
windows in order it keeps every position that one of them covers, and it adds none. -/

namespace RepeatScan

namespace Window

/-- A window lies in an earlier source than another, or in the same one and starts no later. -/
def Ahead (left right : Window) : Prop :=
  left.source < right.source ∨ left.source = right.source ∧ left.start ≤ right.start

theorem Ahead.refl (window : Window) : window.Ahead window :=
  Or.inr ⟨rfl, Nat.le_refl _⟩

theorem Ahead.source_le {left right : Window} (ahead : left.Ahead right) :
    left.source ≤ right.source := by
  unfold Ahead at ahead
  omega

theorem Ahead.start_le {left right : Window} (ahead : left.Ahead right)
    (same : left.source = right.source) : left.start ≤ right.start := by
  unfold Ahead at ahead
  omega

theorem ahead_of_precedes {left right : Window} (ordered : left.precedes right = true) :
    left.Ahead right := by
  have sources := source_le_of_precedes ordered
  rcases Nat.lt_or_eq_of_le sources with before | same
  · exact Or.inl before
  · exact Or.inr ⟨same, start_le_of_precedes ordered same⟩

end Window

namespace Span

/-- A span covers the positions of its source from its start up to its stop. -/
def Covers (span : Span) (source position : Nat) : Prop :=
  span.source = source ∧ span.start ≤ position ∧ position < span.stop

abbrev Orderly (windows : List Window) : Prop :=
  windows.Pairwise fun left right => left.precedes right = true

/-- Windows in the order of their sources and starts, whatever their sizes. -/
abbrev Sorted (windows : List Window) : Prop :=
  windows.Pairwise Window.Ahead

theorem Orderly.sorted {windows : List Window} (ordered : Orderly windows) : Sorted windows :=
  ordered.imp Window.ahead_of_precedes

theorem mergeFrom_eq_cons (current : Span) (windows : List Window) :
    ∃ stop later, mergeFrom current windows = ⟨current.source, current.start, stop⟩ :: later := by
  induction windows generalizing current with
  | nil => exact ⟨current.stop, [], rfl⟩
  | cons window windows ih =>
      rw [mergeFrom]
      by_cases joined : current.source = window.source ∧ window.start ≤ current.stop
      · rw [if_pos joined]
        exact ih { current with stop := max current.stop window.stop }
      · rw [if_neg joined]
        exact ⟨current.stop, _, rfl⟩

theorem merge_cons_eq_cons (window : Window) (windows : List Window) :
    ∃ stop later, merge (window :: windows) = ⟨window.source, window.start, stop⟩ :: later :=
  mergeFrom_eq_cons (ofWindow window) windows

theorem length_mergeFrom_le (current : Span) (windows : List Window) :
    (mergeFrom current windows).length ≤ windows.length + 1 := by
  induction windows generalizing current with
  | nil => exact Nat.le_refl 1
  | cons window windows ih =>
      rw [mergeFrom, List.length_cons]
      by_cases joined : current.source = window.source ∧ window.start ≤ current.stop
      · rw [if_pos joined]
        have bound := ih { current with stop := max current.stop window.stop }
        omega
      · rw [if_neg joined, List.length_cons]
        have bound := ih (ofWindow window)
        omega

theorem length_merge_le (windows : List Window) : (merge windows).length ≤ windows.length := by
  cases windows with
  | nil => exact Nat.le_refl 0
  | cons window windows => exact length_mergeFrom_le (ofWindow window) windows

/-! ### What the spans cover -/

private theorem covers_joined {current : Span} {window : Window} (source position : Nat)
    (same : current.source = window.source) (touching : window.start ≤ current.stop)
    (behind : current.start ≤ window.start) :
    Covers { current with stop := max current.stop window.stop } source position ↔
      current.Covers source position ∨ (ofWindow window).Covers source position := by
  simp only [Covers, ofWindow]
  omega

-- The span that is open never starts behind a window of its source that is still to come.
private theorem covers_mergeFrom {windows : List Window} (sorted : Sorted windows)
    (current : Span)
    (behind : ∀ window ∈ windows, current.source = window.source → current.start ≤ window.start)
    (source position : Nat) :
    (∃ span ∈ mergeFrom current windows, span.Covers source position) ↔
      current.Covers source position ∨
        ∃ window ∈ windows, (ofWindow window).Covers source position := by
  induction windows generalizing current with
  | nil => simp [mergeFrom]
  | cons window windows ih =>
      obtain ⟨first, rest⟩ := List.pairwise_cons.mp sorted
      rw [mergeFrom, List.exists_mem_cons_iff]
      by_cases joined : current.source = window.source ∧ window.start ≤ current.stop
      · have before := behind window List.mem_cons_self joined.1
        have below := ih rest { current with stop := max current.stop window.stop }
          fun later member same => behind later (List.mem_cons_of_mem _ member) same
        rw [if_pos joined, below, covers_joined source position joined.1 joined.2 before, or_assoc]
      · rw [if_neg joined, List.exists_mem_cons_iff, ih rest _ fun later member same =>
          (first later member).start_le same]

/-- Merging keeps the positions that windows cover. -/
theorem covers_merge {windows : List Window} (sorted : Sorted windows) (source position : Nat) :
    (∃ span ∈ merge windows, span.Covers source position) ↔
      ∃ window ∈ windows, (ofWindow window).Covers source position := by
  cases windows with
  | nil => simp [merge]
  | cons window windows =>
      obtain ⟨first, rest⟩ := List.pairwise_cons.mp sorted
      rw [merge, List.exists_mem_cons_iff]
      exact covers_mergeFrom rest _ (fun later member same => (first later member).start_le same)
        source position

/-- A merged span is as long as the shortest window at least. -/
theorem size_le_of_mem_merge {size : Nat} {windows : List Window}
    (sized : ∀ window ∈ windows, size ≤ window.size) {span : Span}
    (member : span ∈ merge windows) : span.start + size ≤ span.stop := by
  have grown (current : Span) (windows : List Window) (long : current.start + size ≤ current.stop)
      (sized : ∀ window ∈ windows, size ≤ window.size) :
      ∀ span ∈ mergeFrom current windows, span.start + size ≤ span.stop := by
    induction windows generalizing current with
    | nil =>
        intro span member
        rw [List.mem_singleton.mp member]
        exact long
    | cons window windows ih =>
        have later := fun other member => sized other (List.mem_cons_of_mem window member)
        rw [mergeFrom]
        by_cases joined : current.source = window.source ∧ window.start ≤ current.stop
        · rw [if_pos joined]
          exact ih _ (Nat.le_trans long (Nat.le_max_left _ _)) later
        · rw [if_neg joined]
          intro span member
          rcases List.mem_cons.mp member with rfl | below
          · exact long
          · refine ih (ofWindow window) ?_ later span below
            exact Nat.add_le_add_left (sized window List.mem_cons_self) window.start
  cases windows with
  | nil => cases member
  | cons window windows =>
      have first : (ofWindow window).start + size ≤ (ofWindow window).stop :=
        Nat.add_le_add_left (sized window List.mem_cons_self) window.start
      exact grown _ windows first
        (fun other member => sized other (List.mem_cons_of_mem window member)) span member

/-- Windows stay apart where those of one source leave gaps. -/
theorem merge_eq_separate {windows : List Window}
    (apart : windows.Pairwise fun left right =>
      left.source = right.source → left.stop < right.start) :
    merge windows = separate windows := by
  cases windows with
  | nil => rfl
  | cons window windows =>
      rw [merge, separate, List.map_cons]
      induction windows generalizing window with
      | nil => rfl
      | cons next windows ih =>
          obtain ⟨first, rest⟩ := List.pairwise_cons.mp apart
          have split : ¬((ofWindow window).source = next.source ∧
              next.start ≤ (ofWindow window).stop) := by
            intro joined
            exact Nat.not_le_of_lt (first next List.mem_cons_self joined.1) joined.2
          rw [mergeFrom, if_neg split, ih next rest, List.map_cons]

end Span

end RepeatScan
