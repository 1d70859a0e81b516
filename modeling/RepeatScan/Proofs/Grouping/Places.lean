import RepeatScan.Proofs.Grouping.Kinds

set_option autoImplicit false

/-! Places where the same tokens stand, as one would look for them without fingerprints: every place is
compared with every other one. Of sources in the order of their indices, the groups of a tally are the
classes of such places. -/

namespace RepeatScan

/-- A place of a source where a window starts. -/
structure Place where
  source : ScannedSource
  start : Nat
  deriving DecidableEq, Repr

namespace Place

def window (size : Nat) (place : Place) : Window :=
  ⟨place.source.index, place.start, size⟩

/-- The tokens of the window at a place. -/
def tokens (size : Nat) (place : Place) : List Token :=
  place.source.tokens.slice place.start (place.start + size)

/-- The window at a place, as a report names it. -/
def occurrence (size : Nat) (place : Place) : Occurrence :=
  ⟨place.source.id, place.start, place.start + size,
    place.source.tokens.lineRange place.start (place.start + size)⟩

/-- All places at which a window fits, source by source and from left to right. -/
def all (size : Nat) (sources : List ScannedSource) : List Place :=
  sources.flatMap fun source =>
    (List.range (Window.count source.tokens.length size)).map fun start => ⟨source, start⟩

/-- All places with the same tokens as a given one. -/
def alike (size : Nat) (sources : List ScannedSource) (place : Place) : List Place :=
  (all size sources).filter fun other => other.tokens size = place.tokens size

/-- The classes of places with the same tokens, each listed when its first place comes. -/
def classes (size : Nat) (sources : List ScannedSource) : List (List Place) :=
  ((all size sources).filter fun place => (alike size sources place).head? = some place).map
    (alike size sources)

/-- The classes that have enough places. -/
def repeated (threshold size : Nat) (sources : List ScannedSource) : List (List Place) :=
  (classes size sources).filter fun members => threshold ≤ members.length

variable {size : Nat} {sources : List ScannedSource}

theorem mem_all {place : Place} :
    place ∈ all size sources ↔
      place.source ∈ sources ∧ place.start < Window.count place.source.tokens.length size := by
  unfold all
  rw [List.mem_flatMap]
  constructor
  · rintro ⟨source, member, listed⟩
    obtain ⟨start, bound, rfl⟩ := List.mem_map.mp listed
    exact ⟨member, List.mem_range.mp bound⟩
  · rintro ⟨member, bound⟩
    exact ⟨place.source, member, List.mem_map.mpr ⟨place.start, List.mem_range.mpr bound, rfl⟩⟩

/-- A window fits where its last token is still within the source. -/
theorem mem_all_of_pos (positive : 0 < size) {place : Place} :
    place ∈ all size sources ↔
      place.source ∈ sources ∧ place.start + size ≤ place.source.tokens.length := by
  rw [mem_all, Window.count_of_pos positive]
  apply and_congr_right
  intro _
  omega

theorem mem_alike {place other : Place} :
    other ∈ alike size sources place ↔
      other ∈ all size sources ∧ other.tokens size = place.tokens size := by
  unfold alike
  rw [List.mem_filter, decide_eq_true_eq]

theorem alike_congr {left right : Place} (same : left.tokens size = right.tokens size) :
    alike size sources left = alike size sources right := by
  unfold alike
  rw [same]

theorem alike_mem_classes {place : Place} (member : place ∈ all size sources) :
    alike size sources place ∈ classes size sources := by
  cases found : alike size sources place with
  | nil =>
      have own : place ∈ alike size sources place := mem_alike.mpr ⟨member, rfl⟩
      rw [found] at own
      cases own
  | cons first others =>
      have inside : first ∈ alike size sources place := by
        rw [found]
        exact List.mem_cons_self
      obtain ⟨listed, same⟩ := mem_alike.mp inside
      have whole : alike size sources first = first :: others := by
        rw [alike_congr same, found]
      refine List.mem_map.mpr ⟨first, List.mem_filter.mpr ⟨listed, ?_⟩, whole⟩
      rw [whole]
      exact decide_eq_true rfl

theorem exists_of_mem_classes {members : List Place} (member : members ∈ classes size sources) :
    ∃ place ∈ all size sources, alike size sources place = members := by
  obtain ⟨place, listed, same⟩ := List.mem_map.mp member
  exact ⟨place, (List.mem_filter.mp listed).1, same⟩

/-! ### Places and windows -/

theorem windowsOf_eq_map (size : Nat) (sources : List ScannedSource) :
    Grouping.windowsOf size sources = (all size sources).map (window size) := by
  unfold all Grouping.windowsOf
  rw [List.map_flatMap]
  apply List.flatMap_congr
  intro source _
  rw [List.map_map]
  rfl

/-- Where a function of contents gives the fingerprints, every place carries that of its tokens. -/
theorem prints_eq_map {print : List Token → Fingerprint}
    (listed : ∀ source ∈ sources, source.windows = Grouping.listing print size source.tokens) :
    Grouping.prints size sources =
      (all size sources).map fun place => (print (place.tokens size), place.window size) := by
  unfold all Grouping.prints
  rw [List.map_flatMap]
  apply List.flatMap_congr
  intro source member
  rw [listed source member, Grouping.listing, List.map_map, List.map_map]
  rfl

theorem eq_of_window_eq (distinct : (sources.map (·.index)).Nodup) {left right : Place}
    (leftKnown : left.source ∈ sources) (rightKnown : right.source ∈ sources)
    (same : left.window size = right.window size) : left = right := by
  cases left
  cases right
  have sources := List.inj_on_of_nodup_map distinct leftKnown rightKnown
    (congrArg Window.source same)
  have starts := congrArg Window.start same
  simp only [mk.injEq]
  exact ⟨sources, starts⟩

theorem content?_window (distinct : (sources.map (·.index)).Nodup) {place : Place}
    (known : place.source ∈ sources) :
    Grouping.content? sources (place.window size) = some (place.tokens size) :=
  Grouping.content?_eq_some distinct known place.start

section Increasing

variable (increasing : (sources.map (·.index)).Pairwise (· < ·))

include increasing

theorem nodup_of_increasing : (sources.map (·.index)).Nodup :=
  increasing.imp Nat.ne_of_lt

theorem pairwise_all :
    (all size sources).Pairwise fun left right => (left.window size).Before (right.window size) := by
  apply List.pairwise_map.mp
  rw [← windowsOf_eq_map]
  exact Window.pairwise_before (Grouping.nodup_windowsOf (nodup_of_increasing increasing))
    (Grouping.pairwise_windowsOf increasing)

theorem alike_of_single {place : Place} (listed : place ∈ all size sources)
    (single : ∀ other ∈ all size sources, other.tokens size = place.tokens size → other = place) :
    alike size sources place = [place] := by
  apply Window.eq_of_mem_iff (window size) ((pairwise_all increasing).filter _)
    (List.pairwise_singleton _ _)
  intro other
  change other ∈ alike size sources place ↔ _
  rw [mem_alike, List.mem_singleton]
  constructor
  · intro found
    exact single other found.1 found.2
  · intro same
    rw [same]
    exact ⟨listed, rfl⟩

theorem ordered_eq_map : Grouping.ordered size sources = (all size sources).map (window size) := by
  unfold Grouping.ordered
  rw [← windowsOf_eq_map]
  exact List.mergeSort_of_pairwise (Grouping.pairwise_windowsOf increasing)

theorem kindOf_window {place : Place} (known : place.source ∈ sources) :
    Grouping.kindOf size sources (place.window size) =
      (alike size sources place).map (window size) := by
  have distinct := nodup_of_increasing increasing
  unfold Grouping.kindOf alike
  rw [ordered_eq_map increasing, List.filter_map]
  apply congrArg
  apply List.filter_congr
  intro other member
  rw [Function.comp_apply, content?_window distinct known,
    content?_window distinct (mem_all.mp member).1]
  simp only [Option.some.injEq]

theorem heads_eq_map :
    Grouping.heads size sources =
      ((all size sources).filter fun place =>
        (alike size sources place).head? = some place).map (window size) := by
  have distinct := nodup_of_increasing increasing
  unfold Grouping.heads
  rw [ordered_eq_map increasing, List.filter_map]
  apply congrArg
  apply List.filter_congr
  intro place member
  have known := (mem_all.mp member).1
  rw [Function.comp_apply, kindOf_window increasing known, List.head?_map]
  apply decide_eq_decide.mpr
  constructor
  · intro starts
    obtain ⟨first, found, same⟩ := Option.map_eq_some_iff.mp starts
    have inside := (mem_alike.mp (List.mem_of_head? found)).1
    rw [found, eq_of_window_eq distinct (mem_all.mp inside).1 known same]
  · intro starts
    rw [starts]
    rfl

end Increasing

variable {options : GroupingOptions}

/-- The groups are the classes that have enough spans. -/
theorem lists_orderedGroups (enumerated : Grouping.Enumerated size sources)
    (increasing : (sources.map (·.index)).Pairwise (· < ·))
    (verified : options.verifyContent = true) :
    SpanGroup.lists (Grouping.orderedGroups sources options
        (Grouping.tally size sources).buckets) =
      ((classes size sources).map fun members =>
        Grouping.spans options (members.map (window size))).filter
          fun found => options.threshold ≤ found.length := by
  rw [enumerated.lists_orderedGroups verified, heads_eq_map increasing, classes, List.map_map,
    List.map_map]
  apply congrArg
  apply List.map_congr_left
  intro place member
  rw [Function.comp_apply, Function.comp_apply,
    kindOf_window increasing (mem_all.mp (List.mem_filter.mp member).1).1]

/-- The spans of the classes, those that overlap or touch merged, of all that have enough spans. -/
def mergedClasses (threshold size : Nat) (sources : List ScannedSource) : List (List Span) :=
  ((classes size sources).map fun members => Span.merge (members.map (window size))).filter
    fun found => threshold ≤ found.length

theorem lists_orderedGroups_of_merge (enumerated : Grouping.Enumerated size sources)
    (increasing : (sources.map (·.index)).Pairwise (· < ·))
    (verified : options.verifyContent = true) (merging : options.mergeOverlaps = true) :
    SpanGroup.lists (Grouping.orderedGroups sources options
        (Grouping.tally size sources).buckets) =
      mergedClasses options.threshold size sources := by
  rw [lists_orderedGroups enumerated increasing verified, Grouping.spans_of_merge merging]
  rfl

theorem mem_lists_orderedGroups (enumerated : Grouping.Enumerated size sources)
    (increasing : (sources.map (·.index)).Pairwise (· < ·))
    (verified : options.verifyContent = true) {found : List Span} :
    found ∈ SpanGroup.lists (Grouping.orderedGroups sources options
        (Grouping.tally size sources).buckets) ↔
      ∃ place ∈ all size sources,
        Grouping.spans options ((alike size sources place).map (window size)) = found ∧
          options.threshold ≤ found.length := by
  rw [lists_orderedGroups enumerated increasing verified, List.mem_filter, List.mem_map,
    decide_eq_true_eq]
  constructor
  · rintro ⟨⟨members, listed, rfl⟩, enough⟩
    obtain ⟨place, present, rfl⟩ := exists_of_mem_classes listed
    exact ⟨place, present, rfl, enough⟩
  · rintro ⟨place, present, rfl, enough⟩
    exact ⟨⟨_, alike_mem_classes present, rfl⟩, enough⟩

end Place

end RepeatScan
