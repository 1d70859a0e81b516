import RepeatScan.Proofs.Span.Shuffling

set_option autoImplicit false

/-! The ranges of spans within one source. Spans of a source are merged from its own windows, and
growing spans moves the ranges of every source alike. So where two sources have the same windows,
their ranges stay the same. -/

namespace RepeatScan.Span

/-- The ranges that spans have within a source, in the order of the spans. -/
def rangesIn (source : Nat) (spans : List Span) : List (Nat × Nat) :=
  (spans.filter fun span => span.source = source).map fun span => (span.start, span.stop)

/-- The windows of the second source are those of the first one, in the same order. -/
def Twins (left right : Nat) (windows : List Window) : Prop :=
  (windows.filter fun window => window.source = right) =
    (windows.filter fun window => window.source = left).map
      (Window.renumber (Equiv.swap left right))

theorem rangesIn_extendAll (source growth : Nat) (spans : List Span) :
    rangesIn source (extendAll growth spans) =
      (rangesIn source spans).map fun range => (range.1, range.2 + growth) := by
  unfold rangesIn extendAll
  rw [List.filter_map, List.map_map, List.map_map]
  rfl

variable {left right : Nat} {windows : List Window}

private theorem rangesIn_eq_of_filter {spans : List Span}
    (same : (spans.filter fun span => span.source = right) =
      renumberAll (Equiv.swap left right) (spans.filter fun span => span.source = left)) :
    rangesIn left spans = rangesIn right spans := by
  unfold rangesIn
  rw [same, renumberAll, List.map_map]
  rfl

/-- Windows in strict order, the same in both sources, are listed alike. -/
theorem twins_of_mem_iff (before : windows.Pairwise Window.Before)
    (same : ∀ start size,
      (⟨left, start, size⟩ : Window) ∈ windows ↔ ⟨right, start, size⟩ ∈ windows) :
    Twins left right windows := by
  have own : (windows.filter fun window => window.source = left).Pairwise Window.Before :=
    before.filter _
  have distinct : ((windows.filter fun window => window.source = left).map
      (Window.renumber (Equiv.swap left right))).Nodup :=
    List.Nodup.map (Window.renumber_injective (Equiv.swap left right).injective)
      (own.imp fun goes => goes.2)
  have ordered : Orderly ((windows.filter fun window => window.source = left).map
      (Window.renumber (Equiv.swap left right))) :=
    orderly_renumber (own.imp fun goes => goes.1) fun window member =>
      of_decide_eq_true (List.mem_filter.mp member).2
  apply Window.eq_of_mem_iff id (before.filter _) (Window.pairwise_before distinct ordered)
  intro window
  rw [List.mem_filter, List.mem_map, decide_eq_true_eq]
  constructor
  · intro found
    obtain ⟨member, source⟩ := found
    obtain ⟨number, start, size⟩ := window
    obtain rfl : number = right := source
    refine ⟨⟨left, start, size⟩,
      List.mem_filter.mpr ⟨(same start size).mpr member, decide_eq_true rfl⟩, ?_⟩
    exact congrArg (Window.mk · start size) (Equiv.swap_apply_left _ _)
  · intro found
    obtain ⟨⟨number, start, size⟩, member, rfl⟩ := found
    obtain ⟨listed, source⟩ := List.mem_filter.mp member
    obtain rfl : number = left := of_decide_eq_true source
    have moved : (⟨number, start, size⟩ : Window).renumber (Equiv.swap number right) =
        ⟨right, start, size⟩ := congrArg (Window.mk · start size) (Equiv.swap_apply_left _ _)
    rw [moved]
    exact ⟨(same start size).mp listed, rfl⟩

theorem Twins.rangesIn_merge (twins : Twins left right windows) (ordered : Orderly windows) :
    rangesIn left (merge windows) = rangesIn right (merge windows) := by
  apply rangesIn_eq_of_filter
  rw [filter_merge ordered, filter_merge ordered, twins,
    merge_renumber (Equiv.swap left right).injective]

theorem Twins.rangesIn_separate (twins : Twins left right windows) :
    rangesIn left (separate windows) = rangesIn right (separate windows) := by
  have own (source : Nat) : ((separate windows).filter fun span => span.source = source) =
      separate (windows.filter fun window => window.source = source) := by
    unfold separate
    rw [List.filter_map]
    rfl
  apply rangesIn_eq_of_filter
  rw [own, own, twins, separate_renumber]

end RepeatScan.Span
