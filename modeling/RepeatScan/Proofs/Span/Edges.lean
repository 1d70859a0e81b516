import RepeatScan.Proofs.Span.Merge

set_option autoImplicit false

/-! The edges of merged spans. A span starts where one of the windows starts and stops where one of
them stops. Of windows in order, the merged spans of one source have a gap between any two. -/

namespace RepeatScan.Span

/-- A span reaches from the start of one of the windows to the stop of one of them. -/
structure Spanned (windows : List Window) (span : Span) : Prop where
  first : ∃ window ∈ windows, window.source = span.source ∧ window.start = span.start
  last : ∃ window ∈ windows, window.source = span.source ∧ window.stop = span.stop

/-- Two spans of one source do not even touch: the first stops before the second one starts. -/
def Apart (left right : Span) : Prop :=
  left.source = right.source → left.stop < right.start

theorem spanned_ofWindow {windows : List Window} {window : Window} (member : window ∈ windows) :
    Spanned windows (ofWindow window) :=
  ⟨⟨window, member, rfl, rfl⟩, ⟨window, member, rfl, rfl⟩⟩

theorem spanned_of_mem_separate {windows : List Window} {span : Span}
    (member : span ∈ separate windows) : Spanned windows span := by
  obtain ⟨window, present, rfl⟩ := List.mem_map.mp member
  exact spanned_ofWindow present

private theorem Spanned.joined {windows : List Window} {current : Span} {window : Window}
    (spanned : Spanned windows current) (member : window ∈ windows)
    (same : current.source = window.source) :
    Spanned windows { current with stop := max current.stop window.stop } := by
  refine ⟨spanned.first, ?_⟩
  change ∃ other ∈ windows, other.source = current.source ∧
    other.stop = max current.stop window.stop
  rcases Nat.le_total current.stop window.stop with longer | shorter
  · rw [Nat.max_eq_right longer]
    exact ⟨window, member, same.symm, rfl⟩
  · rw [Nat.max_eq_left shorter]
    exact spanned.last

private theorem spanned_of_mem_mergeFrom {all windows : List Window} {current span : Span}
    (opened : Spanned all current) (inside : windows ⊆ all)
    (member : span ∈ mergeFrom current windows) : Spanned all span := by
  induction windows generalizing current with
  | nil =>
      rw [List.mem_singleton.mp member]
      exact opened
  | cons window later ih =>
      obtain ⟨present, below⟩ := List.cons_subset.mp inside
      rw [mergeFrom] at member
      by_cases joined : current.source = window.source ∧ window.start ≤ current.stop
      · rw [if_pos joined] at member
        exact ih (opened.joined present joined.1) below member
      · rw [if_neg joined] at member
        rcases List.mem_cons.mp member with rfl | further
        · exact opened
        · exact ih (spanned_ofWindow present) below further

theorem spanned_of_mem_merge {windows : List Window} {span : Span}
    (member : span ∈ merge windows) : Spanned windows span := by
  cases windows with
  | nil => cases member
  | cons window later =>
      exact spanned_of_mem_mergeFrom (spanned_ofWindow List.mem_cons_self)
        (List.subset_cons_self window later) member

-- What comes behind a gap starts no earlier than the window that opens it.
private theorem apart_of_mem_merge {current span : Span} {window : Window}
    {later : List Window} (sorted : Sorted (window :: later))
    (behind : current.source ≤ window.source)
    (gap : ¬(current.source = window.source ∧ window.start ≤ current.stop))
    (member : span ∈ merge (window :: later)) : current.Apart span := by
  intro same
  obtain ⟨first, present, source, start⟩ := (spanned_of_mem_merge member).first
  have ahead : window.Ahead first := by
    rcases List.mem_cons.mp present with rfl | below
    · exact Window.Ahead.refl first
    · exact List.rel_of_pairwise_cons sorted below
  have sources := ahead.source_le
  have starts := ahead.start_le
  rw [← start]
  omega

private theorem apart_mergeFrom {windows : List Window} (sorted : Sorted windows)
    (current : Span) (behind : ∀ window ∈ windows, current.source ≤ window.source) :
    (mergeFrom current windows).Pairwise Apart := by
  induction windows generalizing current with
  | nil => exact List.pairwise_singleton _ _
  | cons window later ih =>
      obtain ⟨first, rest⟩ := List.pairwise_cons.mp sorted
      rw [mergeFrom]
      by_cases joined : current.source = window.source ∧ window.start ≤ current.stop
      · rw [if_pos joined]
        exact ih rest _ fun other member => behind other (List.mem_cons_of_mem _ member)
      · rw [if_neg joined]
        apply List.pairwise_cons.mpr
        constructor
        · intro span member
          exact apart_of_mem_merge sorted (behind window List.mem_cons_self) joined member
        · exact ih rest _ fun other member => (first other member).source_le

/-- Merging leaves a gap between any two spans of one source. -/
theorem apart_merge {windows : List Window} (sorted : Sorted windows) :
    (merge windows).Pairwise Apart := by
  cases windows with
  | nil => exact List.Pairwise.nil
  | cons window later =>
      obtain ⟨first, rest⟩ := List.pairwise_cons.mp sorted
      exact apart_mergeFrom rest _ fun other member => (first other member).source_le

end RepeatScan.Span
