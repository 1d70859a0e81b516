import RepeatScan.Proofs.Grouping.Kinds
import RepeatScan.Proofs.Span.Edges

set_option autoImplicit false

/-! Where groups come from. Whatever the options are, a group has the spans of a part of a bucket: of
windows that the sources list, in order, and with one content if contents are compared. No two parts
share a window, and every span lies in a source that is known. -/

namespace RepeatScan.Grouping

variable {size : Nat} {sources : List ScannedSource} {options : GroupingOptions}

/-- Some windows are all those of a part of a bucket. -/
def IsPart (sources : List ScannedSource) (options : GroupingOptions) (buckets : List Bucket)
    (windows : List Window) : Prop :=
  ∃ bucket ∈ buckets, ∃ part ∈ parts sources options bucket, part.1 :: part.2 = windows

theorem exists_isPart {buckets : List Bucket} {found : List Span}
    (member : found ∈ SpanGroup.lists (orderedGroups sources options buckets)) :
    ∃ windows, IsPart sources options buckets windows ∧ spans options windows = found := by
  obtain ⟨group, present, rfl⟩ := List.mem_map.mp member
  obtain ⟨bucket, inside, produced⟩ := mem_orderedGroups.mp present
  obtain ⟨part, ordinal, listed, _, rfl⟩ := mem_bucketGroups.mp produced
  exact ⟨_, ⟨bucket, inside, part, List.fst_mem_of_mem_zipIdx listed, rfl⟩, rfl⟩

theorem IsPart.ne_nil {buckets : List Bucket} {windows : List Window}
    (isPart : IsPart sources options buckets windows) : windows ≠ [] := by
  obtain ⟨_, _, part, _, rfl⟩ := isPart
  exact List.cons_ne_nil _ _

theorem map_some_filterMap {Item Kept : Type} (pick : Item → Option Kept) {items : List Item}
    (all : ∀ item ∈ items, (pick item).isSome) :
    (items.filterMap pick).map some = items.map pick := by
  induction items with
  | nil => rfl
  | cons item later ih =>
      obtain ⟨kept, picked⟩ := Option.isSome_iff_exists.mp (all item List.mem_cons_self)
      rw [List.filterMap_cons_some picked, List.map_cons, List.map_cons, picked,
        ih fun other member => all other (List.mem_cons_of_mem item member)]

theorem spanned_of_mem_spans {windows : List Window} {span : Span}
    (member : span ∈ spans options windows) : Span.Spanned windows span := by
  unfold spans at member
  by_cases merging : options.mergeOverlaps = true
  · rw [if_pos merging] at member
    exact Span.spanned_of_mem_merge member
  · rw [if_neg merging] at member
    exact Span.spanned_of_mem_separate member

theorem orderly_of_isPart {windows : List Window}
    (isPart : IsPart sources options (tally size sources).buckets windows) :
    Span.Orderly windows := by
  obtain ⟨bucket, present, part, inside, rfl⟩ := isPart
  exact (pairwise_bucket_windows present).sublist (sublist_of_mem_parts inside)

namespace Enumerated

variable (enumerated : Enumerated size sources)

include enumerated

section Parts

variable {windows other : List Window}
  (isPart : IsPart sources options (tally size sources).buckets windows)

include isPart

theorem mem_windowsOf_of_isPart {window : Window} (member : window ∈ windows) :
    window ∈ windowsOf size sources := by
  obtain ⟨bucket, present, part, inside, rfl⟩ := isPart
  exact enumerated.mem_windowsOf_of_bucket present ((sublist_of_mem_parts inside).subset member)

theorem content?_of_isPart (verified : options.verifyContent = true) {left right : Window}
    (leftMember : left ∈ windows) (rightMember : right ∈ windows) :
    content? sources left = content? sources right := by
  obtain ⟨bucket, present, part, inside, rfl⟩ := isPart
  obtain ⟨window, _, same⟩ := (enumerated.mem_parts_bucket verified present).mp inside
  rw [same] at leftMember rightMember
  rw [(mem_kindOf.mp leftMember).2, (mem_kindOf.mp rightMember).2]

/-- Parts that share a window are the same. -/
theorem isPart_unique (otherPart : IsPart sources options (tally size sources).buckets other)
    {window : Window} (member : window ∈ windows) (otherMember : window ∈ other) :
    windows = other := by
  obtain ⟨left, leftPresent, leftPart, leftInside, rfl⟩ := isPart
  obtain ⟨right, rightPresent, rightPart, rightInside, rfl⟩ := otherPart
  cases verified : options.verifyContent with
  | true =>
      obtain ⟨first, _, leftKind⟩ := (enumerated.mem_parts_bucket verified leftPresent).mp leftInside
      obtain ⟨second, _, rightKind⟩ :=
        (enumerated.mem_parts_bucket verified rightPresent).mp rightInside
      rw [leftKind] at member
      rw [rightKind] at otherMember
      rw [leftKind, rightKind, ← kindOf_congr (mem_kindOf.mp member).2,
        ← kindOf_congr (mem_kindOf.mp otherMember).2]
  | false =>
      have whole {bucket : Bucket} {part : Window × List Window}
          (inside : part ∈ parts sources options bucket) : part.1 :: part.2 = bucket.windows := by
        rw [parts_of_trust verified] at inside
        rw [List.mem_singleton.mp inside]
        rfl
      rw [whole leftInside] at member ⊢
      rw [whole rightInside] at otherMember ⊢
      -- A window has one fingerprint only, so a single bucket holds it.
      have fingerprint : left.fingerprint = right.fingerprint :=
        enumerated.faithful _ ((mem_bucket_windows leftPresent).mp member) _
          ((mem_bucket_windows rightPresent).mp otherMember) rfl
      rw [(Bucket.mem_ofEntries (keyed_tally size sources)).mp leftPresent,
        (Bucket.mem_ofEntries (keyed_tally size sources)).mp rightPresent, fingerprint]

end Parts

theorem source_of_mem_lists {found : List Span}
    (member : found ∈ SpanGroup.lists (orderedGroups sources options (tally size sources).buckets))
    {span : Span} (inside : span ∈ found) : ∃ source ∈ sources, source.index = span.source := by
  obtain ⟨windows, isPart, rfl⟩ := exists_isPart member
  obtain ⟨window, present, same, _⟩ := (spanned_of_mem_spans inside).first
  obtain ⟨source, known, start, _, rfl⟩ :=
    mem_windowsOf.mp (enumerated.mem_windowsOf_of_isPart isPart present)
  exact ⟨source, known, same⟩

/-- Merged spans are as long as a window at least. -/
theorem size_le_of_mem_lists (merging : options.mergeOverlaps = true) {found : List Span}
    (member : found ∈ SpanGroup.lists (orderedGroups sources options (tally size sources).buckets))
    {span : Span} (inside : span ∈ found) : span.start + size ≤ span.stop := by
  obtain ⟨windows, isPart, rfl⟩ := exists_isPart member
  rw [spans_of_merge merging] at inside
  refine Span.size_le_of_mem_merge ?_ inside
  intro window present
  rw [size_of_mem_windowsOf (enumerated.mem_windowsOf_of_isPart isPart present)]

theorem source_of_mem_spanGroups {found : List Span}
    (member : found ∈ SpanGroup.lists (spanGroups sources options (tally size sources).buckets))
    {span : Span} (inside : span ∈ found) : ∃ source ∈ sources, source.index = span.source := by
  obtain ⟨base, listed, growth, rfl⟩ := exists_of_mem_lists_spanGroups member
  obtain ⟨short, present, rfl⟩ := List.mem_map.mp inside
  obtain ⟨source, known, index⟩ := enumerated.source_of_mem_lists listed present
  exact ⟨source, known, index⟩

/-- No span of a group is lost when it is looked up. -/
theorem isSome_occurrence? {found : List Span}
    (member : found ∈ SpanGroup.lists (spanGroups sources options (tally size sources).buckets))
    {span : Span} (inside : span ∈ found) : (occurrence? sources span).isSome := by
  obtain ⟨source, known, index⟩ := enumerated.source_of_mem_spanGroups member inside
  rw [occurrence?, ← index, source?_eq_some enumerated.distinct known]
  rfl

/-- Every span has its occurrence in the report, group by group. -/
theorem occurrences_report_some :
    (report sources options (tally size sources).buckets).groups.map
        (fun group => group.occurrences.map some) =
      (SpanGroup.lists (spanGroups sources options (tally size sources).buckets)).map
        fun found => found.map (occurrence? sources) := by
  have occurrences := congrArg (List.map (List.map some))
    (occurrences_report sources options (tally size sources).buckets)
  rw [List.map_map, List.map_map] at occurrences
  refine Eq.trans occurrences (List.map_congr_left ?_)
  intro found member
  exact map_some_filterMap _ fun span inside => enumerated.isSome_occurrence? member inside

end Enumerated

end RepeatScan.Grouping
