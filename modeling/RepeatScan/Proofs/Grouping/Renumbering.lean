import RepeatScan.Proofs.Grouping.Kinds
import RepeatScan.Proofs.Span.Renumbering

set_option autoImplicit false

/-! Reports and the numbers of sources. Whatever is looked up under new numbers is what was looked
up under the old ones. Numbers that keep the order of the sources keep every other order as well,
from the buckets to the groups, so that nothing in a report shows them. -/

namespace RepeatScan

variable {place : Nat → Nat}

/-- A source that stands somewhere else among the sources of a run. -/
def ScannedSource.renumber (place : Nat → Nat) (source : ScannedSource) : ScannedSource :=
  { source with index := place source.index }

def Bucket.renumber (place : Nat → Nat) (bucket : Bucket) : Bucket :=
  ⟨bucket.fingerprint, bucket.first.renumber place, bucket.others.map (Window.renumber place)⟩

namespace Grouping

open Tally (contents)

variable {size : Nat} {sources : List ScannedSource} {options : GroupingOptions}

def Label.renumber (place : Nat → Nat) (label : Label) : Label :=
  { label with first := label.first.renumber place }

/-! ### Each source under a number of its own -/

section Injective

variable (injective : Function.Injective place)

include injective

theorem source?_renumber (sources : List ScannedSource) (index : Nat) :
    source? (sources.map (·.renumber place)) (place index) =
      (source? sources index).map (·.renumber place) := by
  have same (source : ScannedSource) :
      decide ((source.renumber place).index = place index) = decide (source.index = index) :=
    decide_eq_decide.mpr injective.eq_iff
  unfold source?
  rw [← List.map_reverse, List.find?_map]
  simp only [Function.comp_def, same]

theorem content?_renumber (sources : List ScannedSource) (window : Window) :
    content? (sources.map (·.renumber place)) (window.renumber place) =
      content? sources window := by
  change (source? _ (place window.source)).map _ = _
  rw [source?_renumber injective, Option.map_map]
  rfl

theorem occurrence?_renumber (sources : List ScannedSource) (span : Span) :
    occurrence? (sources.map (·.renumber place)) (span.renumber place) =
      occurrence? sources span := by
  change (source? _ (place span.source)).map _ = _
  rw [source?_renumber injective, Option.map_map]
  rfl

theorem spans_renumber (options : GroupingOptions) (windows : List Window) :
    spans options (windows.map (Window.renumber place)) =
      Span.renumberAll place (spans options windows) := by
  cases chosen : options.mergeOverlaps with
  | true =>
      rw [spans_of_merge chosen]
      exact Span.merge_renumber injective windows
  | false =>
      rw [spans_of_separate chosen]
      exact Span.separate_renumber windows

end Injective

theorem windowsOf_renumber (size : Nat) (sources : List ScannedSource) :
    windowsOf size (sources.map (·.renumber place)) =
      (windowsOf size sources).map (Window.renumber place) := by
  unfold windowsOf
  rw [List.flatMap_map, List.map_flatMap]
  simp only [List.map_map]
  rfl

theorem prints_renumber (size : Nat) (sources : List ScannedSource) :
    prints size (sources.map (·.renumber place)) =
      (prints size sources).map (Prod.map id (Window.renumber place)) := by
  unfold prints
  rw [List.flatMap_map, List.map_flatMap]
  simp only [List.map_map]
  rfl

theorem Enumerated.renumber (injective : Function.Injective place)
    (enumerated : Enumerated size sources) :
    Enumerated size (sources.map (·.renumber place)) where
  distinct := by
    rw [List.map_map]
    have indices := enumerated.distinct.map injective
    rwa [List.map_map] at indices
  starts := by
    intro renumbered member
    obtain ⟨source, known, rfl⟩ := List.mem_map.mp member
    exact enumerated.starts source known
  faithful := by
    intro left leftMember right rightMember same
    rw [prints_renumber] at leftMember rightMember
    obtain ⟨first, firstMember, rfl⟩ := List.mem_map.mp leftMember
    obtain ⟨second, secondMember, rfl⟩ := List.mem_map.mp rightMember
    change content? _ (first.2.renumber place) = content? _ (second.2.renumber place) at same
    rw [content?_renumber injective, content?_renumber injective] at same
    exact enumerated.faithful first firstMember second secondMember same

/-! ### Classes and parts -/

theorem classes_map {Content : Type} [DecidableEq Content] (change : Window → Window)
    (entries : List (Window × Content)) :
    classes (entries.map (Prod.map change id)) =
      (classes entries).map (Prod.map change (List.map change)) := by
  fun_induction classes entries with
  | case1 => simp [classes]
  | case2 first content later ih =>
      have same : alike content (later.map (Prod.map change id)) =
          (alike content later).map change := by
        unfold alike
        rw [List.filter_map, List.map_map, List.map_map]
        rfl
      have other : unlike content (later.map (Prod.map change id)) =
          (unlike content later).map (Prod.map change id) := by
        unfold unlike
        rw [List.filter_map]
        rfl
      rw [List.map_cons, Prod.map_apply, id, classes, same, other, ih, List.map_cons]
      rfl

theorem parts_renumber (injective : Function.Injective place) (sources : List ScannedSource)
    (options : GroupingOptions) (bucket : Bucket) :
    parts (sources.map (·.renumber place)) options (bucket.renumber place) =
      (parts sources options bucket).map
        (Prod.map (Window.renumber place) (List.map (Window.renumber place))) := by
  have empty : (bucket.renumber place).others.isEmpty = bucket.others.isEmpty := List.isEmpty_map
  unfold parts
  rw [empty]
  cases options.verifyContent && !bucket.others.isEmpty with
  | false => rfl
  | true =>
      rw [if_pos rfl, if_pos rfl, ← classes_map]
      change classes (List.filterMap _ (bucket.windows.map (Window.renumber place))) = _
      rw [List.filterMap_map, List.map_filterMap]
      congr 2
      funext window
      rw [Function.comp_apply, content?_renumber injective, Option.map_map]
      rfl

theorem bucketGroups_renumber (injective : Function.Injective place)
    (sources : List ScannedSource) (options : GroupingOptions) (bucket : Bucket) :
    bucketGroups (sources.map (·.renumber place)) options (bucket.renumber place) =
      (bucketGroups sources options bucket).map
        (SpanGroup.renumber (Label.renumber place) place) := by
  have count : (bucket.renumber place).windows.length = bucket.windows.length := by
    rw [Bucket.length_windows, Bucket.length_windows]
    exact congrArg (· + 1) (List.length_map _)
  unfold bucketGroups
  rw [count]
  by_cases few : bucket.windows.length < options.threshold
  · rw [if_pos few, if_pos few]
    rfl
  · rw [if_neg few, if_neg few, parts_renumber injective, List.zipIdx_map, List.filterMap_map,
      List.map_filterMap]
    congr 1
    funext entry
    obtain ⟨⟨first, others⟩, ordinal⟩ := entry
    have found := spans_renumber injective options (first :: others)
    rw [List.map_cons] at found
    simp only [Function.comp_apply, Prod.map_apply, id, found, Span.renumberAll, List.length_map]
    split
    · rfl
    · rfl

/-! ### Numbers that keep the order -/

section Increasing

variable (increasing : StrictMono place)

include increasing

theorem precedes_renumber (left right : Window) :
    (left.renumber place).precedes (right.renumber place) = left.precedes right := by
  have before : decide (place left.source < place right.source) =
      decide (left.source < right.source) := decide_eq_decide.mpr increasing.lt_iff_lt
  have same : (place left.source == place right.source) = (left.source == right.source) :=
    Bool.eq_iff_iff.mpr (by rw [beq_iff_eq, beq_iff_eq, increasing.injective.eq_iff])
  unfold Window.precedes
  rw [← before, ← same]
  rfl

theorem bucket_precedes_renumber (left right : Bucket) :
    (left.renumber place).precedes (right.renumber place) = left.precedes right := by
  have same : (left.renumber place).first = (right.renumber place).first ↔
      left.first = right.first := (Window.renumber_injective increasing.injective).eq_iff
  unfold Bucket.precedes
  by_cases equal : left.first = right.first
  · rw [if_pos equal, if_pos (same.mpr equal)]
    rfl
  · rw [if_neg equal, if_neg fun both => equal (same.mp both)]
    exact precedes_renumber increasing _ _

theorem ofWindows?_renumber (fingerprint : Fingerprint) (windows : List Window) :
    Bucket.ofWindows? fingerprint (windows.map (Window.renumber place)) =
      (Bucket.ofWindows? fingerprint windows).map (·.renumber place) := by
  have sorted := List.map_mergeSort (f := Window.renumber place) (l := windows)
    fun left _ right _ => (precedes_renumber increasing left right).symm
  unfold Bucket.ofWindows?
  rw [← sorted]
  cases windows.mergeSort Window.precedes with
  | nil => rfl
  | cons first others => rfl

theorem ofEntries_renumber (entries : List (Fingerprint × List Window)) :
    Bucket.ofEntries (entries.map (Prod.map id (List.map (Window.renumber place)))) =
      (Bucket.ofEntries entries).map (·.renumber place) := by
  unfold Bucket.ofEntries
  rw [List.map_mergeSort fun left _ right _ => (bucket_precedes_renumber increasing left right).symm,
    List.filterMap_map, List.map_filterMap]
  congr 2
  funext entry
  exact ofWindows?_renumber increasing entry.1 entry.2

theorem buckets_renumber (size : Nat) (sources : List ScannedSource) :
    (tally size (sources.map (·.renumber place))).buckets =
      (tally size sources).buckets.map (·.renumber place) := by
  have keyed := keyed_tally size sources
  have held : contents ((tally size sources).entries.map
      (Prod.map id (List.map (Window.renumber place)))) =
        (contents (tally size sources).entries).map (Prod.map id (Window.renumber place)) := by
    unfold contents
    rw [List.flatMap_map, List.map_flatMap]
    apply List.flatMap_congr
    intro entry _
    change List.map _ (List.map _ entry.2) = List.map _ (List.map _ entry.2)
    rw [List.map_map, List.map_map]
    rfl
  rw [Tally.buckets, Tally.buckets, ← ofEntries_renumber increasing]
  apply Bucket.ofEntries_eq_of_perm (keyed_tally size _)
  · constructor
    · rw [List.map_map]
      exact keyed.distinct
    · intro entry member
      obtain ⟨original, present, rfl⟩ := List.mem_map.mp member
      exact fun empty => keyed.inhabited original present (List.map_eq_nil_iff.mp empty)
  · rw [held]
    refine (contents_tally size _).trans ?_
    rw [prints_renumber]
    exact ((contents_tally size sources).map _).symm

theorem orderedGroups_renumber (sources : List ScannedSource) (options : GroupingOptions)
    (buckets : List Bucket) :
    orderedGroups (sources.map (·.renumber place)) options (buckets.map (·.renumber place)) =
      (orderedGroups sources options buckets).map
        (SpanGroup.renumber (Label.renumber place) place) := by
  have sorted := List.map_mergeSort (f := SpanGroup.renumber (Label.renumber place) place)
    (l := buckets.flatMap (bucketGroups sources options))
    (r := fun left right => left.key.first.precedes right.key.first)
    (s := fun left right => left.key.first.precedes right.key.first)
    fun left _ right _ => (precedes_renumber increasing left.key.first right.key.first).symm
  unfold orderedGroups
  rw [sorted, List.map_flatMap, List.flatMap_map]
  simp only [bucketGroups_renumber increasing.injective]

theorem Enumerated.spanGroups_renumber (enumerated : Enumerated size sources) :
    spanGroups (sources.map (·.renumber place)) options
        (tally size (sources.map (·.renumber place))).buckets =
      (spanGroups sources options (tally size sources).buckets).map
        (SpanGroup.renumber (Label.renumber place) place) := by
  have renumbered : Span.Ordered (SpanGroup.lists (orderedGroups (sources.map (·.renumber place))
      options (tally size (sources.map (·.renumber place))).buckets)) :=
    (enumerated.renumber increasing.injective).lists_orderedGroups_ordered
  rw [buckets_renumber increasing, orderedGroups_renumber increasing] at renumbered
  unfold spanGroups
  rw [buckets_renumber increasing, orderedGroups_renumber increasing]
  by_cases merging : options.mergeOverlaps = true
  · rw [if_pos merging, if_pos merging]
    exact SpanGroup.coalesce_renumber increasing.injective enumerated.lists_orderedGroups_ordered
      renumbered
  · rw [if_neg merging, if_neg merging]

/-- Under other numbers in the same order, sources have the same report. -/
theorem Enumerated.reportOf_renumber (enumerated : Enumerated size sources) :
    reportOf size options (sources.map (·.renumber place)) = reportOf size options sources := by
  unfold reportOf report
  rw [enumerated.spanGroups_renumber increasing, List.map_map]
  congr 1
  apply List.map_congr_left
  intro group _
  have resolved : (Span.renumberAll place group.spans).filterMap
      (occurrence? (sources.map (·.renumber place))) =
        group.spans.filterMap (occurrence? sources) := by
    rw [Span.renumberAll, List.filterMap_map]
    apply List.filterMap_congr
    intro span _
    exact occurrence?_renumber increasing.injective sources span
  exact congrArg (Group.mk _) resolved

end Increasing

end Grouping

end RepeatScan
