import Mathlib.Data.List.Nodup
import RepeatScan.Proofs.Span.Fold

set_option autoImplicit false

/-! Chains share out a collection. Every list of an ordered collection is one link of the chain of
one head, so the chains together are as long as the collection. For the fold this means that a group
stays exactly if it is no other one moved right by a token, grows as far as it can be moved along
groups that are there, and stands for itself and the groups that it was moved along. -/

namespace RepeatScan

namespace Span

variable {lists : List (List Span)}

def heads (lists : List (List Span)) : List (List Span) :=
  lists.filter fun spans => !continues lists spans

/-- The links of the chain of some spans, from the spans themselves on. -/
def chain (lists : List (List Span)) (spans : List Span) : List (List Span) :=
  (List.range (reach lists spans + 1)).map fun offset => shiftAll offset spans

theorem mem_heads {spans : List Span} : spans ∈ heads lists ↔ Head lists spans := by
  unfold heads
  rw [List.mem_filter, Bool.not_eq_true']
  exact ⟨fun both => ⟨both.1, both.2⟩, fun head => ⟨head.member, head.starts⟩⟩

theorem mem_chain {spans link : List Span} :
    link ∈ chain lists spans ↔
      ∃ offset, offset ≤ reach lists spans ∧ shiftAll offset spans = link := by
  unfold chain
  simp only [List.mem_map, List.mem_range, Nat.lt_succ_iff]

theorem Ordered.nodup (ordered : Ordered lists) : lists.Nodup := by
  refine ordered.increasing.imp ?_
  intro left right leads same
  rw [same] at leads
  exact Leads.irrefl right leads

private theorem nodup_chain {spans : List Span} (inhabited : spans ≠ []) :
    (chain lists spans).Nodup := by
  refine List.Nodup.map ?_ List.nodup_range
  intro first second same
  exact offset_eq_of_shiftAll inhabited same

private theorem disjoint_chain {left right : List Span} (first : Head lists left)
    (second : Head lists right) (different : left ≠ right) :
    (chain lists left).Disjoint (chain lists right) := by
  intro link leftLink rightLink
  obtain ⟨leftOffset, leftWithin, rfl⟩ := mem_chain.mp leftLink
  obtain ⟨rightOffset, rightWithin, same⟩ := mem_chain.mp rightLink
  exact different (first.unique second leftWithin rightWithin same.symm).1

/-- The chains of the heads share out the collection. -/
theorem Ordered.chains_perm (ordered : Ordered lists) :
    ((heads lists).flatMap (chain lists)).Perm lists := by
  have apart : ((heads lists).flatMap (chain lists)).Nodup := by
    apply List.nodup_flatMap.mpr
    constructor
    · intro spans member
      exact nodup_chain (ordered.inhabited spans (mem_heads.mp member).member)
    · have distinct : (heads lists).Nodup := ordered.nodup.filter _
      refine distinct.imp_of_mem ?_
      intro left right leftMember rightMember different
      exact disjoint_chain (mem_heads.mp leftMember) (mem_heads.mp rightMember) different
  apply (List.perm_ext_iff_of_nodup apart ordered.nodup).mpr
  intro spans
  rw [List.mem_flatMap]
  constructor
  · intro listed
    obtain ⟨head, member, link⟩ := listed
    obtain ⟨offset, within, rfl⟩ := mem_chain.mp link
    exact (mem_heads.mp member).mem_link within
  · intro member
    obtain ⟨head, offset, heads, within, same⟩ := ordered.exists_head member
    exact ⟨head, mem_heads.mpr heads, mem_chain.mpr ⟨offset, within, same⟩⟩

theorem length_flatMap_chain (lists starts : List (List Span)) :
    (starts.flatMap (chain lists)).length =
      starts.foldr (fun spans total => reach lists spans + 1 + total) 0 := by
  rw [List.length_flatMap, List.sum_eq_foldr, List.foldr_map]
  simp only [chain, List.length_map, List.length_range]

end Span

namespace SpanGroup

open RepeatScan.Span (Ordered continues heads reach shiftAll)

variable {Key : Type} {groups : List (SpanGroup Key)}

/-- A group has the spans of some group moved right by a token. -/
def Repeats (groups : List (SpanGroup Key)) (group : SpanGroup Key) : Prop :=
  ∃ earlier ∈ groups, earlier.shifted 1 = group.spans

instance (groups : List (SpanGroup Key)) (group : SpanGroup Key) :
    Decidable (Repeats groups group) :=
  inferInstanceAs (Decidable (∃ earlier ∈ groups, earlier.shifted 1 = group.spans))

/-- Moved right a token at a time, the spans of a group are those of some group after every step up
to a last one. -/
def MovesAlong (groups : List (SpanGroup Key)) (group : SpanGroup Key) (last : Nat) : Prop :=
  ∀ offset, 0 < offset → offset ≤ last → ∃ other ∈ groups, other.spans = group.shifted offset

/-- The last step up to which a group can be moved along others. -/
structure Furthest (groups : List (SpanGroup Key)) (group : SpanGroup Key) (last : Nat) : Prop where
  moves : MovesAlong groups group last
  greatest : ∀ further, MovesAlong groups group further → further ≤ last

theorem continues_lists_iff {group : SpanGroup Key} :
    continues (lists groups) group.spans = true ↔ Repeats groups group := by
  simp only [Span.continues_iff, lists, List.mem_map, exists_exists_and_eq_and]
  rfl

private theorem mem_lists_iff {spans : List Span} :
    spans ∈ lists groups ↔ ∃ other ∈ groups, other.spans = spans :=
  List.mem_map

theorem furthest_reach (ordered : Ordered (lists groups)) {group : SpanGroup Key}
    (member : group ∈ groups) : Furthest groups group (reach (lists groups) group.spans) where
  moves := fun _ positive within => mem_lists_iff.mp (Span.mem_of_le_reach positive within)
  greatest := by
    intro further moves
    by_contra beyond
    have next := moves (reach (lists groups) group.spans + 1) (Nat.succ_pos _) (by omega)
    exact ordered.not_mem_reach_succ (mem_lists_iff.mpr ⟨group, member, rfl⟩)
      (mem_lists_iff.mpr next)

/-- Of groups in order the fold keeps, in order, those that are no other group moved right by a
token. Each of them grows by the number of tokens that it can be moved along groups that are there,
and with the groups on its way it makes up all that there were. -/
theorem coalesce_furthest (ordered : Ordered (lists groups)) :
    ∃ kept : List (SpanGroup Key × Nat),
      kept.map (·.1) = groups.filter (fun group => ¬Repeats groups group) ∧
        coalesce groups = kept.map (fun entry => entry.1.extend entry.2) ∧
        (∀ entry ∈ kept, Furthest groups entry.1 entry.2) ∧
        kept.foldr (fun entry total => entry.2 + 1 + total) 0 = groups.length := by
  have starts (group : SpanGroup Key) :
      (!continues (lists groups) group.spans) = decide (¬Repeats groups group) := by
    rw [Bool.eq_iff_iff, decide_eq_true_eq, Bool.not_eq_true', ← continues_lists_iff,
      Bool.not_eq_true]
  refine ⟨(groups.filter fun group => ¬Repeats groups group).map fun group =>
    (group, reach (lists groups) group.spans), ?_, ?_, ?_, ?_⟩
  · rw [List.map_map]
    exact List.map_id _
  · rw [coalesce_eq_survivors ordered, survivors, List.map_map]
    simp only [starts]
    rfl
  · intro entry member
    obtain ⟨group, listed, rfl⟩ := List.mem_map.mp member
    exact furthest_reach ordered (List.mem_of_mem_filter listed)
  · have shared := (ordered.chains_perm).length_eq
    rw [Span.length_flatMap_chain, lists, List.length_map] at shared
    rw [← shared, List.foldr_map, heads, List.filter_map, List.foldr_map]
    simp only [Function.comp_def, ← starts]
    rfl

/-- Two spans moved right by one token and, behind a span that stands alone, by two more. -/
def broken : List (SpanGroup Char) :=
  [⟨'a', [⟨0, 0, 4⟩, ⟨1, 0, 4⟩]⟩, ⟨'b', [⟨0, 1, 5⟩, ⟨1, 1, 5⟩]⟩, ⟨'c', [⟨0, 2, 6⟩]⟩,
    ⟨'d', [⟨0, 3, 7⟩, ⟨1, 3, 7⟩]⟩]

theorem ordered_broken : Ordered (lists broken) where
  inhabited := by decide
  increasing := by simp [lists, broken, Span.Leads, Span.Before]

theorem coalesce_furthest_broken :
    ∃ kept : List (SpanGroup Char × Nat), kept.map (·.1.key) = ['a', 'c', 'd'] ∧
      coalesce broken = kept.map (fun entry => entry.1.extend entry.2) ∧
      (∀ entry ∈ kept, Furthest broken entry.1 entry.2) ∧
      kept.foldr (fun entry total => entry.2 + 1 + total) 0 = 4 := by
  obtain ⟨kept, survivors, folded, furthest, total⟩ := coalesce_furthest ordered_broken
  refine ⟨kept, ?_, folded, furthest, total⟩
  have keys := congrArg (List.map (·.key)) survivors
  rw [List.map_map] at keys
  exact keys.trans (by decide)

end SpanGroup

end RepeatScan
