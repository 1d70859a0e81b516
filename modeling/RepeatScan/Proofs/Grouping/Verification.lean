import Mathlib.Data.List.Pairwise
import RepeatScan.Proofs.Grouping.Identity
import RepeatScan.Proofs.Grouping.Sequence

set_option autoImplicit false

/-! Comparing contents. Where no two contents share a fingerprint, a report is the same whether contents
are compared or not. Where some do, comparing them only takes groups apart: as long as every window
stands for itself and every group is kept, each of the groups is part of a single one that comes without
the comparison, and each of these is made up of such parts. -/

namespace RepeatScan

/-! ### Lists that take others apart -/

/-- Each of the fine lists is part of a coarse one, in the same order, and each coarse list is made up
of some of the fine ones. No item stands twice in the coarse lists, so what makes up one of them is
disjoint. -/
structure Refines {Item : Type} (fine coarse : List (List Item)) : Prop where
  within : ∀ part ∈ fine, ∃ whole ∈ coarse, part.Sublist whole
  united : ∀ whole ∈ coarse, ∃ share : List (List Item),
    share.Sublist fine ∧ share.flatten.Perm whole
  distinct : coarse.flatten.Nodup

section Lists

variable {Item Other : Type} {fine coarse : List (List Item)}

theorem eq_of_mem_of_nodup_flatten {lists : List (List Item)} (distinct : lists.flatten.Nodup)
    {left right : List Item} (leftMember : left ∈ lists) (rightMember : right ∈ lists) {item : Item}
    (inLeft : item ∈ left) (inRight : item ∈ right) : left = right := by
  by_contra different
  have symmetric : Std.Symm (List.Disjoint (α := Item)) := ⟨fun _ _ => List.disjoint_symm⟩
  have disjoint := (List.nodup_flatten.mp distinct).2.forall leftMember rightMember different
  exact disjoint inLeft inRight

/-- Parts that hold every item once and never items of two lists refine these. -/
theorem refines_of_covered [DecidableEq Item] (fineDistinct : fine.flatten.Nodup)
    (coarseDistinct : coarse.flatten.Nodup)
    (within : ∀ part ∈ fine, ∃ whole ∈ coarse, part.Sublist whole)
    (covered : coarse.flatten ⊆ fine.flatten) : Refines fine coarse where
  within := within
  united := by
    intro whole member
    refine ⟨fine.filter fun part => part.all fun item => item ∈ whole, List.filter_sublist, ?_⟩
    have shareDistinct : (fine.filter fun part => part.all fun item => item ∈ whole).flatten.Nodup :=
      List.filter_sublist.flatten.nodup fineDistinct
    have wholeDistinct : whole.Nodup := (List.nodup_flatten.mp coarseDistinct).1 whole member
    apply (List.perm_ext_iff_of_nodup shareDistinct wholeDistinct).mpr
    intro item
    constructor
    · intro held
      obtain ⟨part, kept, inside⟩ := List.mem_flatten.mp held
      have all := List.all_eq_true.mp (List.mem_filter.mp kept).2
      exact of_decide_eq_true (all item inside)
    · intro inside
      obtain ⟨part, listed, held⟩ :=
        List.mem_flatten.mp (covered (List.mem_flatten.mpr ⟨whole, member, inside⟩))
      obtain ⟨other, present, sublist⟩ := within part listed
      -- The part lies in a coarse list, and the item stands in no other one than this.
      obtain rfl := eq_of_mem_of_nodup_flatten coarseDistinct present member
        (sublist.subset held) inside
      refine List.mem_flatten.mpr ⟨part, List.mem_filter.mpr ⟨listed, ?_⟩, held⟩
      exact List.all_eq_true.mpr fun item inPart => decide_eq_true (sublist.subset inPart)
  distinct := coarseDistinct

/-- Naming the items in another way keeps lists refined, as long as no name is given twice. -/
theorem Refines.filterMap (refines : Refines fine coarse) {name : Item → Option Other}
    (tells : ∀ first second other, other ∈ name first → other ∈ name second → first = second) :
    Refines (fine.map (List.filterMap name)) (coarse.map (List.filterMap name)) where
  within := by
    intro part member
    obtain ⟨original, listed, rfl⟩ := List.mem_map.mp member
    obtain ⟨whole, present, sublist⟩ := refines.within original listed
    exact ⟨_, List.mem_map.mpr ⟨whole, present, rfl⟩, sublist.filterMap name⟩
  united := by
    intro whole member
    obtain ⟨original, listed, rfl⟩ := List.mem_map.mp member
    obtain ⟨share, sublist, perm⟩ := refines.united original listed
    refine ⟨share.map (List.filterMap name), sublist.map _, ?_⟩
    rw [← List.filterMap_flatten]
    exact perm.filterMap name
  distinct := by
    rw [← List.filterMap_flatten]
    exact refines.distinct.filterMap tells

end Lists

namespace Grouping

variable {size : Nat} {sources : List ScannedSource} {options : GroupingOptions}
  {buckets : List Bucket}

/-- When every window stands for itself and no group is too small, the groups are the parts. -/
theorem mem_lists_spanGroups_of_separate (apart : options.mergeOverlaps = false)
    (few : options.minOccurrences ≤ 1) {found : List Span} :
    found ∈ SpanGroup.lists (spanGroups sources options buckets) ↔
      ∃ windows, IsPart sources options buckets windows ∧ Span.separate windows = found := by
  unfold spanGroups
  rw [apart, if_neg Bool.false_ne_true]
  constructor
  · intro member
    obtain ⟨windows, isPart, same⟩ := exists_isPart member
    rw [spans_of_separate apart] at same
    exact ⟨windows, isPart, same⟩
  · intro given
    obtain ⟨windows, ⟨bucket, present, part, inside, rfl⟩, rfl⟩ := given
    obtain ⟨ordinal, stands⟩ := List.mem_iff_getElem?.mp inside
    have enough : options.threshold ≤ (spans options (part.1 :: part.2)).length := by
      rw [spans_of_separate apart, Span.separate, List.length_map, List.length_cons]
      unfold GroupingOptions.threshold
      omega
    refine List.mem_map.mpr ⟨groupOf options bucket part ordinal, mem_orderedGroups.mpr
      ⟨bucket, present, mem_bucketGroups.mpr ⟨part, ordinal, ?_, enough, rfl⟩⟩, ?_⟩
    · exact List.mk_mem_zipIdx_iff_getElem?.mpr stands
    · exact congrFun (spans_of_separate apart) (part.1 :: part.2)

namespace Enumerated

variable (enumerated : Enumerated size sources)

include enumerated

/-- Every window of a bucket is in one of its parts. -/
theorem exists_part {bucket : Bucket} (present : bucket ∈ (tally size sources).buckets)
    {window : Window} (inside : window ∈ bucket.windows) :
    ∃ part ∈ parts sources options bucket, window ∈ part.1 :: part.2 := by
  cases verified : options.verifyContent with
  | false =>
      refine ⟨(bucket.first, bucket.others), ?_, inside⟩
      rw [parts_of_trust verified]
      exact List.mem_singleton_self _
  | true =>
      have own : window ∈ kindOf size sources window :=
        mem_kindOf.mpr ⟨enumerated.mem_windowsOf_of_bucket present inside, rfl⟩
      obtain ⟨first, others, kind⟩ := List.exists_cons_of_ne_nil (List.ne_nil_of_mem own)
      refine ⟨(first, others), ?_, kind ▸ own⟩
      exact (enumerated.mem_parts_bucket verified present).mpr ⟨window, inside, kind.symm⟩

/-- Comparing contents takes groups apart and does nothing else to them. -/
theorem refines_spanGroups (apart : options.mergeOverlaps = false)
    (few : options.minOccurrences ≤ 1) :
    Refines
      (SpanGroup.lists (spanGroups sources { options with verifyContent := true }
        (tally size sources).buckets))
      (SpanGroup.lists (spanGroups sources { options with verifyContent := false }
        (tally size sources).buckets)) := by
  have spansOf (verify : Bool) {found : List Span} :=
    @mem_lists_spanGroups_of_separate sources { options with verifyContent := verify }
      (tally size sources).buckets apart few found
  apply refines_of_covered
  · exact enumerated.sequenced_spanGroups.distinct.of_map
  · exact enumerated.sequenced_spanGroups.distinct.of_map
  · intro found member
    obtain ⟨windows, ⟨bucket, present, part, inside, rfl⟩, rfl⟩ := (spansOf true).mp member
    refine ⟨Span.separate bucket.windows, (spansOf false).mpr ⟨bucket.windows, ?_, rfl⟩,
      (sublist_of_mem_parts inside).map Span.ofWindow⟩
    refine ⟨bucket, present, (bucket.first, bucket.others), ?_, rfl⟩
    rw [parts_of_trust rfl]
    exact List.mem_singleton_self _
  · intro span held
    obtain ⟨found, member, listed⟩ := List.mem_flatten.mp held
    obtain ⟨windows, ⟨bucket, present, part, inside, rfl⟩, rfl⟩ := (spansOf false).mp member
    obtain ⟨window, known, rfl⟩ := List.mem_map.mp listed
    obtain ⟨kind, kept, own⟩ := @exists_part _ _ { options with verifyContent := true } enumerated
      bucket present window ((sublist_of_mem_parts inside).subset known)
    exact List.mem_flatten.mpr ⟨_, (spansOf true).mpr ⟨_, ⟨bucket, present, kind, kept, rfl⟩, rfl⟩,
      List.mem_map.mpr ⟨window, own, rfl⟩⟩

/-- Where no two contents share a fingerprint, it does not matter whether contents are compared. -/
theorem report_verifying (telling : Telling size sources) :
    report sources { options with verifyContent := true } (tally size sources).buckets =
      report sources { options with verifyContent := false } (tally size sources).buckets := by
  have ordered : orderedGroups sources { options with verifyContent := true }
      (tally size sources).buckets =
        orderedGroups sources { options with verifyContent := false }
          (tally size sources).buckets := by
    unfold orderedGroups
    congr 1
    apply List.flatMap_congr
    intro bucket present
    unfold bucketGroups
    rw [enumerated.parts_bucket telling present, enumerated.parts_bucket telling present]
    rfl
  unfold report spanGroups
  rw [ordered]

end Enumerated

end Grouping

end RepeatScan
