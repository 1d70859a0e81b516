import RepeatScan.Proofs.Grouping.Places

set_option autoImplicit false

/-! What merged reports cover. Merging the windows of a class and folding shifted groups keep the
positions that the windows of the large classes cover, and each large class is held by a group that is
reported. -/

namespace RepeatScan.Place

variable {size : Nat} {sources : List ScannedSource} {options : GroupingOptions}

/-- The spans of all places like a given one, those that overlap or touch merged. -/
def merged (size : Nat) (sources : List ScannedSource) (place : Place) : List Span :=
  Span.merge ((alike size sources place).map (window size))

theorem size_le_of_mem_map {members : List Place} :
    ∀ found ∈ members.map (window size), size ≤ found.size := by
  intro found member
  obtain ⟨place, _, rfl⟩ := List.mem_map.mp member
  exact Nat.le_refl _

theorem lt_of_mem_merged (positive : 0 < size) {place : Place} {span : Span}
    (member : span ∈ merged size sources place) : span.start < span.stop := by
  have long := Span.size_le_of_mem_merge size_le_of_mem_map member
  omega

theorem orderly_alike (increasing : (sources.map (·.index)).Pairwise (· < ·)) (place : Place) :
    Span.Orderly ((alike size sources place).map (window size)) := by
  apply List.pairwise_map.mpr
  exact ((pairwise_all increasing).filter _).imp fun before => before.1

theorem covers_merged (increasing : (sources.map (·.index)).Pairwise (· < ·)) (place : Place)
    (index position : Nat) :
    (∃ span ∈ merged size sources place, span.Covers index position) ↔
      ∃ other ∈ alike size sources place, other.source.index = index ∧
        other.start ≤ position ∧ position < other.start + size := by
  unfold merged
  rw [Span.covers_merge (orderly_alike increasing place).sorted]
  constructor
  · rintro ⟨_, member, covers⟩
    obtain ⟨other, inside, rfl⟩ := List.mem_map.mp member
    exact ⟨other, inside, covers⟩
  · rintro ⟨other, inside, covers⟩
    exact ⟨_, List.mem_map.mpr ⟨other, inside, rfl⟩, covers⟩

section Merging

variable (enumerated : Grouping.Enumerated size sources) (merging : options.mergeOverlaps = true)

include enumerated merging

private theorem lists_eq_grownHeads :
    SpanGroup.lists (Grouping.spanGroups sources options (Grouping.tally size sources).buckets) =
      Span.grownHeads (SpanGroup.lists (Grouping.orderedGroups sources options
        (Grouping.tally size sources).buckets)) := by
  rw [enumerated.lists_spanGroups, if_pos merging]

variable (increasing : (sources.map (·.index)).Pairwise (· < ·))
  (verified : options.verifyContent = true)

include increasing verified

private theorem mem_lists {found : List Span} :
    found ∈ SpanGroup.lists (Grouping.orderedGroups sources options
        (Grouping.tally size sources).buckets) ↔
      ∃ place ∈ all size sources, merged size sources place = found ∧
        options.threshold ≤ found.length := by
  rw [mem_lists_orderedGroups enumerated increasing verified, Grouping.spans_of_merge merging]
  rfl

/-- Every large class is held, span by span, by a group that is reported. -/
theorem exists_spans_hold {place : Place} (listed : place ∈ all size sources)
    (enough : options.threshold ≤ (merged size sources place).length) :
    ∃ spans ∈ SpanGroup.lists (Grouping.spanGroups sources options
        (Grouping.tally size sources).buckets),
      List.Forall₂ Span.Holds spans (merged size sources place) := by
  apply enumerated.exists_spans_hold
  exact (mem_lists enumerated merging increasing verified).mpr ⟨place, listed, rfl, enough⟩

variable (positive : 0 < size)

include positive

/-- Reported spans cover the positions of the windows of the large classes, and no others. -/
theorem covers_spanGroups (index position : Nat) :
    (∃ spans ∈ SpanGroup.lists (Grouping.spanGroups sources options
        (Grouping.tally size sources).buckets), ∃ span ∈ spans, span.Covers index position) ↔
      ∃ place ∈ all size sources, (place.source.index = index ∧ place.start ≤ position ∧
        position < place.start + size) ∧
          options.threshold ≤ (merged size sources place).length := by
  have long : ∀ spans ∈ SpanGroup.lists (Grouping.orderedGroups sources options
      (Grouping.tally size sources).buckets), ∀ span ∈ spans, span.start < span.stop := by
    intro spans member span inside
    obtain ⟨place, _, rfl, _⟩ := (mem_lists enumerated merging increasing verified).mp member
    exact lt_of_mem_merged positive inside
  rw [lists_eq_grownHeads enumerated merging,
    enumerated.lists_orderedGroups_ordered.covers_grownHeads long]
  constructor
  · rintro ⟨spans, member, covered⟩
    obtain ⟨first, _, rfl, enough⟩ :=
      (mem_lists enumerated merging increasing verified).mp member
    obtain ⟨place, inside, within⟩ := (covers_merged increasing first index position).mp covered
    obtain ⟨listed, same⟩ := mem_alike.mp inside
    refine ⟨place, listed, within, ?_⟩
    rw [merged, alike_congr same]
    exact enough
  · rintro ⟨place, listed, within, enough⟩
    refine ⟨merged size sources place,
      (mem_lists enumerated merging increasing verified).mpr ⟨place, listed, rfl, enough⟩, ?_⟩
    exact (covers_merged increasing place index position).mpr
      ⟨place, mem_alike.mpr ⟨listed, rfl⟩, within⟩

end Merging

end RepeatScan.Place
