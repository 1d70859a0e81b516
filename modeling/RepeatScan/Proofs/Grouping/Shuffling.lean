import RepeatScan.Proofs.Grouping.Labels
import RepeatScan.Proofs.Grouping.Renumbering
import RepeatScan.Proofs.Grouping.Sequence
import RepeatScan.Proofs.Span.Shuffling

set_option autoImplicit false

/-! Sources that change places. When contents are compared, the groups are the same whatever the
order of the sources is: every kind of windows is the same kind under the new numbers, its spans are
the same up to their order, and so the fold finds the same chains. Nor do labels change, but those
that tell contents of one fingerprint apart. -/

namespace RepeatScan.Grouping

variable {size : Nat} {sources left right : List ScannedSource} {options : GroupingOptions}
  {place : Equiv.Perm Nat}

/-- The same enumerated sources, each at its place in the second list. -/
structure Shuffled (place : Equiv.Perm Nat) (size : Nat) (left right : List ScannedSource) :
    Prop where
  first : Enumerated size left
  second : Enumerated size right
  moved : right.Perm (left.map (·.renumber place))

theorem source?_eq_some_iff (distinct : (sources.map (·.index)).Nodup) {index : Nat}
    {source : ScannedSource} :
    source? sources index = some source ↔ source ∈ sources ∧ source.index = index := by
  constructor
  · intro found
    have known := List.mem_reverse.mp (List.mem_of_find?_eq_some found)
    have same := List.find?_some found
    exact ⟨known, of_decide_eq_true same⟩
  · intro both
    obtain ⟨known, rfl⟩ := both
    exact source?_eq_some distinct known

theorem source?_eq_of_perm (distinct : (left.map (·.index)).Nodup) (same : right.Perm left) :
    source? right = source? left := by
  funext index
  apply Option.ext
  intro source
  rw [source?_eq_some_iff distinct, source?_eq_some_iff ((same.map _).nodup_iff.mpr distinct),
    same.mem_iff]

namespace Shuffled

variable (shuffled : Shuffled place size left right)

include shuffled

theorem flip : Shuffled place.symm size right left := by
  refine ⟨shuffled.second, shuffled.first, ?_⟩
  have back : (left.map (·.renumber place)).map (·.renumber place.symm) = left := by
    rw [List.map_map]
    have same (source : ScannedSource) : (source.renumber place).renumber place.symm = source :=
      congrArg (ScannedSource.mk · source.id source.tokens source.windows)
        (place.symm_apply_apply source.index)
    exact (List.map_congr_left fun source _ => same source).trans (List.map_id left)
  have moved := (shuffled.moved.map (·.renumber place.symm)).symm
  rwa [back] at moved

private theorem source?_eq : source? right = source? (left.map (·.renumber place)) :=
  source?_eq_of_perm (shuffled.first.renumber place.injective).distinct shuffled.moved

theorem content?_eq (window : Window) :
    content? right (window.renumber place) = content? left window := by
  rw [← content?_renumber place.injective left, content?, content?, shuffled.source?_eq]

theorem occurrence?_eq (span : Span) :
    occurrence? right (span.renumber place) = occurrence? left span := by
  rw [← occurrence?_renumber place.injective left, occurrence?, occurrence?, shuffled.source?_eq]

theorem windowsOf_perm :
    (windowsOf size right).Perm ((windowsOf size left).map (Window.renumber place)) := by
  rw [← windowsOf_renumber]
  exact shuffled.moved.flatMap_right _

theorem prints_perm :
    (prints size right).Perm ((prints size left).map (Prod.map id (Window.renumber place))) := by
  rw [← prints_renumber]
  exact shuffled.moved.flatMap_right _

theorem mem_prints {label : Fingerprint} {window : Window} :
    (label, window.renumber place) ∈ prints size right ↔ (label, window) ∈ prints size left := by
  have injective : Function.Injective (Prod.map (@id Fingerprint) (Window.renumber place)) :=
    Function.injective_id.prodMap (Window.renumber_injective place.injective)
  rw [shuffled.prints_perm.mem_iff]
  exact List.mem_map_of_injective (a := (label, window)) injective

/-! ### Kinds and groups -/

theorem kindOf_perm (window : Window) :
    (kindOf size right (window.renumber place)).Perm
      ((kindOf size left window).map (Window.renumber place)) := by
  unfold kindOf ordered
  refine ((List.mergeSort_perm _ _).filter _).trans ?_
  refine (shuffled.windowsOf_perm.filter _).trans ?_
  rw [List.filter_map]
  have same : (windowsOf size left).filter ((fun other => decide
      (content? right other = content? right (window.renumber place))) ∘ Window.renumber place) =
        (windowsOf size left).filter fun other => content? left other = content? left window := by
    apply List.filter_congr
    intro other _
    rw [Function.comp_apply, shuffled.content?_eq, shuffled.content?_eq]
  rw [same]
  exact (((List.mergeSort_perm _ _).filter _).map _).symm

theorem spans_matches (options : GroupingOptions) (window : Window) :
    Span.Matches place (spans options (kindOf size left window))
      (spans options (kindOf size right (window.renumber place))) := by
  have orderly (sources : List ScannedSource) (window : Window) :
      Span.Orderly (kindOf size sources window) := (Window.pairwise_mergeSort _).filter _
  cases chosen : options.mergeOverlaps with
  | true =>
      rw [spans_of_merge chosen]
      exact Span.merge_perm (orderly _ _) (orderly _ _) (shuffled.kindOf_perm window)
  | false =>
      rw [spans_of_separate chosen]
      unfold Span.Matches
      rw [← Span.separate_renumber]
      exact (shuffled.kindOf_perm window).map _

end Shuffled

theorem Enumerated.mem_lists_orderedGroups (enumerated : Enumerated size sources)
    (verified : options.verifyContent = true) {found : List Span} :
    found ∈ SpanGroup.lists (orderedGroups sources options (tally size sources).buckets) ↔
      ∃ window ∈ windowsOf size sources, spans options (kindOf size sources window) = found ∧
        options.threshold ≤ found.length := by
  rw [enumerated.lists_orderedGroups verified, List.mem_filter, decide_eq_true_eq, List.mem_map]
  constructor
  · intro both
    obtain ⟨⟨window, head, rfl⟩, enough⟩ := both
    exact ⟨window, (mem_heads.mp head).1, rfl, enough⟩
  · intro listed
    obtain ⟨window, known, rfl, enough⟩ := listed
    have own : window ∈ kindOf size sources window := mem_kindOf.mpr ⟨known, rfl⟩
    -- A kind is that of its first window as well.
    obtain ⟨head, first⟩ := Option.isSome_iff_exists.mp
      (List.isSome_head?.mpr (List.ne_nil_of_mem own))
    obtain ⟨present, same⟩ := mem_kindOf.mp (List.mem_of_head? first)
    have kind : kindOf size sources head = kindOf size sources window := kindOf_congr same
    refine ⟨⟨head, mem_heads.mpr ⟨present, ?_⟩, by rw [kind]⟩, enough⟩
    rw [kind]
    exact first

namespace Shuffled

variable (shuffled : Shuffled place size left right) (verified : options.verifyContent = true)

include shuffled verified

theorem mirrors_orderedGroups :
    Span.Mirrors place
      (SpanGroup.lists (orderedGroups left options (tally size left).buckets))
      (SpanGroup.lists (orderedGroups right options (tally size right).buckets)) := by
  intro found member
  obtain ⟨window, known, rfl, enough⟩ :=
    (shuffled.first.mem_lists_orderedGroups verified).mp member
  have matched := shuffled.spans_matches options window
  refine ⟨_, (shuffled.second.mem_lists_orderedGroups verified).mpr
    ⟨window.renumber place, ?_, rfl, ?_⟩, matched⟩
  · exact shuffled.windowsOf_perm.mem_iff.mpr (List.mem_map.mpr ⟨window, known, rfl⟩)
  · rw [matched.length_eq, Span.renumberAll, List.length_map]
    exact enough

theorem mirrors_spanGroups :
    Span.Mirrors place (SpanGroup.lists (spanGroups left options (tally size left).buckets))
      (SpanGroup.lists (spanGroups right options (tally size right).buckets)) := by
  rw [shuffled.first.lists_spanGroups, shuffled.second.lists_spanGroups]
  by_cases merging : options.mergeOverlaps = true
  · rw [if_pos merging, if_pos merging]
    exact Span.Mirrors.grownHeads shuffled.first.sequenced_orderedGroups
      shuffled.second.sequenced_orderedGroups (shuffled.mirrors_orderedGroups verified)
      (shuffled.flip.mirrors_orderedGroups verified)
  · rw [if_neg merging, if_neg merging]
    exact shuffled.mirrors_orderedGroups verified

/-- Groups that hold the same spans have one label, if it is that of a sole content. -/
theorem label_eq {group other : SpanGroup Label}
    (member : group ∈ spanGroups left options (tally size left).buckets)
    (present : other ∈ spanGroups right options (tally size right).buckets)
    (matched : Span.Matches place group.spans other.spans) {span : Span}
    (inside : span ∈ group.spans) (sole : Sole size left (opening size span)) :
    other.key.fingerprint = group.key.fingerprint := by
  have printed := shuffled.mem_prints.mpr
    (shuffled.first.label_of_sole_opening verified member inside sole)
  have moved : span.renumber place ∈ other.spans :=
    matched.mem_iff.mpr (List.mem_map.mpr ⟨span, inside, rfl⟩)
  have shared : Sole size right (opening size (span.renumber place)) := by
    intro label own window printed
    obtain ⟨item, listed, same⟩ := List.mem_map.mp (shuffled.prints_perm.mem_iff.mp printed)
    obtain ⟨rfl, rfl⟩ := Prod.mk.inj same
    have equal := sole _ (shuffled.mem_prints.mp own) _ listed
    exact ((shuffled.content?_eq _).trans equal).trans (shuffled.content?_eq _).symm
  exact shuffled.second.faithful _
    (shuffled.second.label_of_sole_opening verified present moved shared) _ printed rfl

/-- The reported groups are the same, and with them the labels of sole contents. -/
theorem rel_spanGroups :
    Multiset.Rel (fun group other : SpanGroup Label => Span.Matches place group.spans other.spans ∧
        ∀ span ∈ group.spans, Sole size left (opening size span) →
          other.key.fingerprint = group.key.fingerprint)
      (spanGroups left options (tally size left).buckets)
      (spanGroups right options (tally size right).buckets) := by
  have matched := Span.Mirrors.rel shuffled.first.sequenced_spanGroups
    shuffled.second.sequenced_spanGroups (shuffled.mirrors_spanGroups verified)
    (shuffled.flip.mirrors_spanGroups verified)
  unfold SpanGroup.lists at matched
  rw [← Multiset.map_coe, ← Multiset.map_coe, Multiset.rel_map] at matched
  refine matched.mono fun group member other present same => ⟨same, ?_⟩
  intro span inside sole
  exact shuffled.label_eq verified member present same inside sole

end Shuffled

/-! ### Counts -/

namespace Shuffled

variable (shuffled : Shuffled place size left right)

include shuffled

/-- A total over the sources does not depend on their order, nor on their numbers. -/
theorem total_eq (amount : ScannedSource → Nat)
    (kept : ∀ source : ScannedSource, amount (source.renumber place) = amount source) :
    right.foldr (fun source total => amount source + total) 0 =
      left.foldr (fun source total => amount source + total) 0 := by
  have moved := shuffled.moved.foldr_eq' (f := fun source total => amount source + total)
    (fun _ _ _ _ _ => Nat.add_left_comm _ _ _) 0
  rw [moved, List.foldr_map]
  simp only [kept]

theorem counted_eq : (tally size right).counted = (tally size left).counted := by
  rw [counted_tally, counted_tally]
  exact shuffled.total_eq (·.windows.length) fun _ => rfl

theorem length_buckets_eq :
    (tally size right).buckets.length = (tally size left).buckets.length := by
  have labels := shuffled.prints_perm.map (·.1)
  rw [List.map_map] at labels
  have same : ((tally size right).buckets.map (·.fingerprint)).Perm
      ((tally size left).buckets.map (·.fingerprint)) := by
    apply (List.perm_ext_iff_of_nodup (nodup_fingerprints_tally size right)
      (nodup_fingerprints_tally size left)).mpr
    intro fingerprint
    exact mem_fingerprints_tally.trans (labels.mem_iff.trans mem_fingerprints_tally.symm)
  have lengths := same.length_eq
  rwa [List.length_map, List.length_map] at lengths

end Shuffled

end RepeatScan.Grouping
