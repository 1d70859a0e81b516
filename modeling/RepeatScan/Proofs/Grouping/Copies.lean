import RepeatScan.Proofs.Grouping.Coverage
import RepeatScan.Proofs.Span.Ranges

set_option autoImplicit false

/-! Copies. Two sources of the same tokens have places of every class at the same starts, so every
group has the same ranges in both, whatever other places the class has: spans are merged source by
source and the fold grows all spans of a group alike. Each window of a copy stands in the other one
too, so its class has two spans at least, and every position is covered. -/

namespace RepeatScan

variable {size : Nat} {sources : List ScannedSource} {options : GroupingOptions}

/-! ### Spans of windows, merged or not -/

namespace Grouping

variable {windows : List Window}

theorem covers_spans (ordered : Span.Orderly windows) (source position : Nat) :
    (∃ span ∈ spans options windows, span.Covers source position) ↔
      ∃ window ∈ windows, (Span.ofWindow window).Covers source position := by
  cases chosen : options.mergeOverlaps with
  | true =>
      rw [spans_of_merge chosen]
      exact Span.covers_merge ordered.sorted source position
  | false =>
      rw [spans_of_separate chosen]
      simp only [Span.separate, List.mem_map, exists_exists_and_eq_and]

theorem rangesIn_spans {left right : Nat} (twins : Span.Twins left right windows)
    (ordered : Span.Orderly windows) :
    Span.rangesIn left (spans options windows) = Span.rangesIn right (spans options windows) := by
  cases chosen : options.mergeOverlaps with
  | true =>
      rw [spans_of_merge chosen]
      exact twins.rangesIn_merge ordered
  | false =>
      rw [spans_of_separate chosen]
      exact twins.rangesIn_separate

end Grouping

private theorem two_le_length {Item : Type} {items : List Item} {first second : Item}
    (firstMember : first ∈ items) (secondMember : second ∈ items) (different : first ≠ second) :
    2 ≤ items.length := by
  have pair : [first, second].Subperm items := by
    apply List.subperm_of_subset
    · simpa using different
    · exact List.cons_subset.mpr
        ⟨firstMember, List.cons_subset.mpr ⟨secondMember, List.nil_subset _⟩⟩
  exact pair.length_le

/-- Two of the sources have the same tokens. -/
structure Copies (sources : List ScannedSource) (left right : ScannedSource) : Prop where
  leftKnown : left ∈ sources
  rightKnown : right ∈ sources
  apart : left.index ≠ right.index
  tokens : left.tokens.tokens = right.tokens.tokens

namespace Copies

variable {left right : ScannedSource} (copies : Copies sources left right)

include copies

theorem symm : Copies sources right left :=
  ⟨copies.rightKnown, copies.leftKnown, copies.apart.symm, copies.tokens.symm⟩

theorem length_eq : left.tokens.length = right.tokens.length := by
  rw [← TokenStream.length_tokens, ← TokenStream.length_tokens, copies.tokens]

/-- A place of one copy is like the place of the other one with the same start. -/
theorem mem_alike {place : Place} {start : Nat}
    (member : (⟨left, start⟩ : Place) ∈ Place.alike size sources place) :
    (⟨right, start⟩ : Place) ∈ Place.alike size sources place := by
  obtain ⟨listed, same⟩ := Place.mem_alike.mp member
  obtain ⟨_, fits⟩ := Place.mem_all.mp listed
  change start < Window.count left.tokens.length size at fits
  rw [copies.length_eq] at fits
  refine Place.mem_alike.mpr ⟨Place.mem_all.mpr ⟨copies.rightKnown, fits⟩, ?_⟩
  rw [← same, Place.tokens, Place.tokens, TokenStream.slice, TokenStream.slice, copies.tokens]

theorem window_mem_alike (distinct : (sources.map (·.index)).Nodup) {place : Place}
    {start width : Nat} (member : (⟨left.index, start, width⟩ : Window) ∈
      (Place.alike size sources place).map (Place.window size)) :
    (⟨right.index, start, width⟩ : Window) ∈
      (Place.alike size sources place).map (Place.window size) := by
  obtain ⟨⟨source, position⟩, inside, same⟩ := List.mem_map.mp member
  obtain ⟨index, rfl, rfl⟩ := Window.mk.inj same
  have known := (Place.mem_all.mp (Place.mem_alike.mp inside).1).1
  obtain rfl : source = left := List.inj_on_of_nodup_map distinct known copies.leftKnown index
  exact List.mem_map.mpr ⟨_, copies.mem_alike inside, rfl⟩

variable (increasing : (sources.map (·.index)).Pairwise (· < ·))

include increasing

/-- A class has the same windows in both copies. -/
theorem twins_alike (place : Place) :
    Span.Twins left.index right.index
      ((Place.alike size sources place).map (Place.window size)) := by
  have distinct := Place.nodup_of_increasing increasing
  apply Span.twins_of_mem_iff
  · exact List.pairwise_map.mpr ((Place.pairwise_all increasing).filter _)
  · intro start width
    exact ⟨copies.window_mem_alike distinct, copies.symm.window_mem_alike distinct⟩

section Reported

variable (enumerated : Grouping.Enumerated size sources) (verified : options.verifyContent = true)

include enumerated verified

theorem rangesIn_orderedGroups {found : List Span}
    (member : found ∈ SpanGroup.lists (Grouping.orderedGroups sources options
      (Grouping.tally size sources).buckets)) :
    Span.rangesIn left.index found = Span.rangesIn right.index found := by
  obtain ⟨place, _, rfl, _⟩ :=
    (Place.mem_lists_orderedGroups enumerated increasing verified).mp member
  exact Grouping.rangesIn_spans (copies.twins_alike increasing place)
    (Place.orderly_alike increasing place)

/-- Every group that is reported has the same ranges in both copies. -/
theorem rangesIn_spanGroups {found : List Span}
    (member : found ∈ SpanGroup.lists (Grouping.spanGroups sources options
      (Grouping.tally size sources).buckets)) :
    Span.rangesIn left.index found = Span.rangesIn right.index found := by
  obtain ⟨base, listed, growth, rfl⟩ := Grouping.exists_of_mem_lists_spanGroups member
  rw [Span.rangesIn_extendAll, Span.rangesIn_extendAll,
    copies.rangesIn_orderedGroups increasing enumerated verified listed]

theorem exists_covers (few : options.threshold ≤ 2) {start : Nat}
    (fits : start < Window.count left.tokens.length size) {position : Nat}
    (after : start ≤ position) (before : position < start + size) :
    ∃ found ∈ SpanGroup.lists (Grouping.spanGroups sources options
        (Grouping.tally size sources).buckets),
      ∃ span ∈ found, span.Covers left.index position := by
  have listed : (⟨left, start⟩ : Place) ∈ Place.all size sources :=
    Place.mem_all.mpr ⟨copies.leftKnown, fits⟩
  have alike : (⟨left, start⟩ : Place) ∈ Place.alike size sources ⟨left, start⟩ :=
    Place.mem_alike.mpr ⟨listed, rfl⟩
  have covered {source : ScannedSource}
      (member : (⟨source, start⟩ : Place) ∈ Place.alike size sources ⟨left, start⟩) :
      ∃ span ∈ Grouping.spans options
          ((Place.alike size sources ⟨left, start⟩).map (Place.window size)),
        span.Covers source.index position :=
    (Grouping.covers_spans (Place.orderly_alike increasing _) _ _).mpr
      ⟨_, List.mem_map.mpr ⟨_, member, rfl⟩, rfl, after, before⟩
  obtain ⟨first, firstMember, firstCovers⟩ := covered alike
  obtain ⟨second, secondMember, secondCovers⟩ := covered (copies.mem_alike alike)
  -- The two spans lie in different sources, so there are enough of them.
  have different : first ≠ second := by
    intro same
    rw [← same] at secondCovers
    exact copies.apart (firstCovers.1.symm.trans secondCovers.1)
  have enough := Nat.le_trans few (two_le_length firstMember secondMember different)
  obtain ⟨found, reported, holds⟩ := enumerated.exists_spans_hold
    ((Place.mem_lists_orderedGroups enumerated increasing verified).mpr ⟨_, listed, rfl, enough⟩)
  exact ⟨found, reported, Span.exists_covers_of_holds holds ⟨first, firstMember, firstCovers⟩⟩

/-- The reported groups cover a copy from its first token to its last. -/
theorem covers_all (few : options.threshold ≤ 2) (positive : 0 < size)
    (room : size ≤ left.tokens.length) {position : Nat} (inside : position < left.tokens.length) :
    ∃ found ∈ SpanGroup.lists (Grouping.spanGroups sources options
        (Grouping.tally size sources).buckets),
      ∃ span ∈ found, span.Covers left.index position := by
  -- The window at the position, or the last one if that would not fit.
  have fits : min position (left.tokens.length - size) <
      Window.count left.tokens.length size := by
    rw [Window.count_of_pos positive]
    omega
  exact copies.exists_covers increasing enumerated verified few fits (Nat.min_le_left _ _)
    (by omega)

end Reported

end Copies

end RepeatScan
