import RepeatScan.Proofs.Grouping.Enumerated

set_option autoImplicit false

/-! Kinds of windows. Two windows are of one kind when their contents are equal, whatever buckets they
came through. The groups of a tally are the kinds with enough spans, in the order of their first
windows, and nothing else about the fingerprints shows. -/

namespace RepeatScan.Grouping

variable {size : Nat} {sources : List ScannedSource} {options : GroupingOptions}

def ordered (size : Nat) (sources : List ScannedSource) : List Window :=
  (windowsOf size sources).mergeSort Window.precedes

/-- The windows with the content of a given one, in order. -/
def kindOf (size : Nat) (sources : List ScannedSource) (window : Window) : List Window :=
  (ordered size sources).filter fun other => content? sources other = content? sources window

/-- The windows that come first among those of their kind. -/
def heads (size : Nat) (sources : List ScannedSource) : List Window :=
  (ordered size sources).filter fun window => (kindOf size sources window).head? = some window

theorem mem_ordered {window : Window} :
    window ∈ ordered size sources ↔ window ∈ windowsOf size sources :=
  List.mem_mergeSort

theorem mem_kindOf {window other : Window} :
    other ∈ kindOf size sources window ↔
      other ∈ windowsOf size sources ∧ content? sources other = content? sources window := by
  unfold kindOf
  rw [List.mem_filter, mem_ordered, decide_eq_true_eq]

theorem mem_heads {window : Window} :
    window ∈ heads size sources ↔
      window ∈ windowsOf size sources ∧ (kindOf size sources window).head? = some window := by
  unfold heads
  rw [List.mem_filter, mem_ordered, decide_eq_true_eq]

theorem kindOf_congr {left right : Window}
    (same : content? sources left = content? sources right) :
    kindOf size sources left = kindOf size sources right := by
  unfold kindOf
  rw [same]

theorem pairwise_ordered (distinct : (sources.map (·.index)).Nodup) :
    (ordered size sources).Pairwise Window.Before :=
  Window.pairwise_before
    ((List.mergeSort_perm _ _).nodup_iff.mpr (nodup_windowsOf distinct))
    (Window.pairwise_mergeSort _)

namespace Enumerated

variable (enumerated : Enumerated size sources)

include enumerated

/-- All windows of a kind stand in the bucket of any one of them. -/
theorem filter_bucket_eq_kindOf {bucket : Bucket}
    (member : bucket ∈ (tally size sources).buckets) {window : Window}
    (inside : window ∈ bucket.windows) :
    (bucket.windows.filter fun other => content? sources other = content? sources window) =
      kindOf size sources window := by
  have distinct : bucket.windows.Nodup :=
    (List.nodup_flatMap.mp enumerated.nodup_windows_buckets).1 bucket member
  have increasing := Window.pairwise_before distinct (pairwise_bucket_windows member)
  apply Window.eq_of_mem_iff id (increasing.filter _)
    ((pairwise_ordered enumerated.distinct).filter _)
  intro other
  rw [List.mem_filter, List.mem_filter, mem_ordered]
  apply and_congr_left
  intro kept
  have same : content? sources other = content? sources window := of_decide_eq_true kept
  constructor
  · exact enumerated.mem_windowsOf_of_bucket member
  · intro present
    rw [← enumerated.windows_prints] at present
    obtain ⟨item, listed, rfl⟩ := List.mem_map.mp present
    have own := (mem_bucket_windows member).mp inside
    have fingerprint : item.1 = bucket.fingerprint := enumerated.faithful item listed _ own same
    rw [mem_bucket_windows member, ← fingerprint]
    exact listed

theorem mem_parts_bucket (verified : options.verifyContent = true) {bucket : Bucket}
    (member : bucket ∈ (tally size sources).buckets) {part : Window × List Window} :
    part ∈ parts sources options bucket ↔
      ∃ window ∈ bucket.windows, part.1 :: part.2 = kindOf size sources window := by
  rw [mem_parts_of_verify verified fun window inside =>
    enumerated.isSome_content? (enumerated.mem_windowsOf_of_bucket member inside)]
  apply exists_congr
  intro window
  apply and_congr_right
  intro inside
  rw [enumerated.filter_bucket_eq_kindOf member inside]

/-- A group has the spans of a kind, if these are enough, and starts with the first window of it. -/
theorem exists_group_iff (verified : options.verifyContent = true) (first : Window)
    (found : List Span) :
    (∃ group ∈ orderedGroups sources options (tally size sources).buckets,
        group.key.first = first ∧ group.spans = found) ↔
      first ∈ heads size sources ∧ spans options (kindOf size sources first) = found ∧
        options.threshold ≤ found.length := by
  constructor
  · rintro ⟨group, member, rfl, rfl⟩
    obtain ⟨bucket, present, inside⟩ := mem_orderedGroups.mp member
    obtain ⟨part, ordinal, listed, enough, rfl⟩ := mem_bucketGroups.mp inside
    obtain ⟨window, held, same⟩ := (enumerated.mem_parts_bucket verified present).mp
      (List.fst_mem_of_mem_zipIdx listed)
    change part.1 ∈ _ ∧ spans options (kindOf size sources part.1) =
      spans options (part.1 :: part.2) ∧ _
    have first : part.1 ∈ kindOf size sources window := by
      rw [← same]
      exact List.mem_cons_self
    obtain ⟨known, equal⟩ := mem_kindOf.mp first
    rw [mem_heads, kindOf_congr equal, ← same]
    exact ⟨⟨known, rfl⟩, rfl, enough⟩
  · rintro ⟨head, rfl, enough⟩
    obtain ⟨known, starts⟩ := mem_heads.mp head
    obtain ⟨others, same⟩ := List.head?_eq_some_iff.mp starts
    obtain ⟨bucket, present, held⟩ := enumerated.exists_bucket known
    have part : (first, others) ∈ parts sources options bucket :=
      (enumerated.mem_parts_bucket verified present).mpr ⟨first, held, same.symm⟩
    obtain ⟨ordinal, stands⟩ := List.mem_iff_getElem?.mp part
    rw [same] at enough ⊢
    refine ⟨groupOf options bucket (first, others) ordinal, mem_orderedGroups.mpr
      ⟨bucket, present, mem_bucketGroups.mpr ⟨(first, others), ordinal, ?_, enough, rfl⟩⟩, rfl, rfl⟩
    exact List.mk_mem_zipIdx_iff_getElem?.mpr stands

/-- When contents are compared, the groups are the kinds with enough spans, by first window. -/
theorem lists_orderedGroups (verified : options.verifyContent = true) :
    SpanGroup.lists (orderedGroups sources options (tally size sources).buckets) =
      ((heads size sources).map fun window => spans options (kindOf size sources window)).filter
        fun found => options.threshold ≤ found.length := by
  let keyed (group : SpanGroup Label) : Window × List Span := (group.key.first, group.spans)
  let kind (window : Window) : Window × List Span :=
    (window, spans options (kindOf size sources window))
  have same : (orderedGroups sources options (tally size sources).buckets).map keyed =
      ((heads size sources).map kind).filter fun entry => options.threshold ≤ entry.2.length := by
    apply Window.eq_of_mem_iff Prod.fst
    · exact List.pairwise_map.mpr (orderedGroups_increasing enumerated.nodup_windows_buckets)
    · apply List.Pairwise.filter
      apply List.pairwise_map.mpr
      exact (pairwise_ordered enumerated.distinct).filter _
    · rintro ⟨first, found⟩
      have groups := enumerated.exists_group_iff verified first found
      simp only [List.mem_map, List.mem_filter, keyed, kind, Prod.mk.injEq, decide_eq_true_eq]
      rw [groups]
      constructor
      · rintro ⟨head, rfl, enough⟩
        exact ⟨⟨first, head, rfl, rfl⟩, enough⟩
      · rintro ⟨⟨window, head, rfl, rfl⟩, enough⟩
        exact ⟨head, rfl, enough⟩
  have projected := congrArg (List.map Prod.snd) same
  rw [List.map_map, List.filter_map, List.map_map] at projected
  rw [List.filter_map]
  exact projected

theorem lists_orderedGroups_ordered :
    Span.Ordered (SpanGroup.lists (orderedGroups sources options (tally size sources).buckets)) :=
  Grouping.lists_orderedGroups_ordered enumerated.nodup_windows_buckets
    fun _ member _ inside => size_of_mem_windowsOf (enumerated.mem_windowsOf_of_bucket member inside)

/-- Reported are the groups themselves, or the grown heads of their chains when spans are merged. -/
theorem lists_spanGroups (options : GroupingOptions) :
    SpanGroup.lists (spanGroups sources options (tally size sources).buckets) =
      if options.mergeOverlaps then
        Span.grownHeads (SpanGroup.lists
          (orderedGroups sources options (tally size sources).buckets))
      else SpanGroup.lists (orderedGroups sources options (tally size sources).buckets) := by
  unfold spanGroups
  cases options.mergeOverlaps with
  | true => exact SpanGroup.lists_coalesce enumerated.lists_orderedGroups_ordered
  | false => rfl

/-- What the buckets give is held, span by span, by a group that is reported. -/
theorem exists_spans_hold {found : List Span} (member : found ∈ SpanGroup.lists
      (orderedGroups sources options (tally size sources).buckets)) :
    ∃ reported ∈ SpanGroup.lists (spanGroups sources options (tally size sources).buckets),
      List.Forall₂ Span.Holds reported found := by
  rw [enumerated.lists_spanGroups]
  by_cases merging : options.mergeOverlaps = true
  · rw [if_pos merging]
    exact enumerated.lists_orderedGroups_ordered.exists_grownHead member
  · rw [if_neg merging]
    refine ⟨found, member, List.forall₂_same.mpr ?_⟩
    intro span _
    exact ⟨rfl, Nat.le_refl _, Nat.le_refl _⟩

end Enumerated

theorem occurrences_report (sources : List ScannedSource) (options : GroupingOptions)
    (buckets : List Bucket) :
    (report sources options buckets).groups.map (·.occurrences) =
      (SpanGroup.lists (spanGroups sources options buckets)).map fun spans =>
        spans.filterMap (occurrence? sources) := by
  unfold report SpanGroup.lists
  rw [List.map_map, List.map_map]
  rfl

end RepeatScan.Grouping
