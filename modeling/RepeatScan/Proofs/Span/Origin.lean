import Mathlib.Data.List.Flatten
import Mathlib.Data.List.Nodup
import RepeatScan.Proofs.Bucket.Order
import RepeatScan.Proofs.Span.Chain
import RepeatScan.Proofs.Span.Merge

set_option autoImplicit false

/-! Where spans start. Merged spans start where some of the windows do, in the same order, and
growing the heads of chains moves no start. So lists of spans that start in order and never twice at
the same place still do so after the fold. -/

namespace RepeatScan

def Window.origin (window : Window) : Nat × Nat :=
  (window.source, window.start)

namespace Span

def origin (span : Span) : Nat × Nat :=
  (span.source, span.start)

private theorem origins_mergeFrom_sublist (current : Span) (windows : List Window) :
    ((mergeFrom current windows).map origin).Sublist
      (current.origin :: windows.map Window.origin) := by
  induction windows generalizing current with
  | nil => exact List.Sublist.refl _
  | cons window later ih =>
      rw [mergeFrom, List.map_cons]
      by_cases joined : current.source = window.source ∧ window.start ≤ current.stop
      · rw [if_pos joined]
        have kept := ih { current with stop := max current.stop window.stop }
        exact kept.trans ((List.sublist_cons_self _ _).cons_cons _)
      · rw [if_neg joined]
        exact (ih (ofWindow window)).cons_cons _

/-- Merging keeps the first start of every run of windows that it joins, and no other. -/
theorem origins_merge_sublist (windows : List Window) :
    ((merge windows).map origin).Sublist (windows.map Window.origin) := by
  cases windows with
  | nil => exact List.Sublist.refl _
  | cons window later => exact origins_mergeFrom_sublist (ofWindow window) later

theorem origins_separate (windows : List Window) :
    (separate windows).map origin = windows.map Window.origin := by
  rw [separate, List.map_map]
  rfl

/-- Spans that start with windows in order are in order themselves. -/
theorem pairwise_before_of_origins {size : Nat} {windows : List Window} {spans : List Span}
    (uniform : ∀ window ∈ windows, window.size = size) (ordered : windows.Pairwise Window.Before)
    (starts : (spans.map origin).Sublist (windows.map Window.origin)) : spans.Pairwise Before := by
  have increasing : (windows.map Window.origin).Pairwise fun left right =>
      left.1 < right.1 ∨ left.1 = right.1 ∧ left.2 < right.2 := by
    apply List.pairwise_map.mpr
    refine ordered.imp_of_mem ?_
    intro left right leftMember rightMember before
    exact before.source_or_start
      ((uniform left leftMember).trans (uniform right rightMember).symm)
  exact (List.pairwise_map (f := origin)).mp (List.Pairwise.sublist starts increasing)

/-! ### Lists in sequence -/

/-- Lists of spans whose starts increase, within each list and from list to list by the first ones,
and are all different. -/
structure Sequenced (lists : List (List Span)) : Prop extends Ordered lists where
  rising : ∀ spans ∈ lists, spans.Pairwise Before
  distinct : (lists.flatten.map origin).Nodup

variable {lists : List (List Span)}

theorem map_origin_extendAll (offset : Nat) (spans : List Span) :
    (extendAll offset spans).map origin = spans.map origin := by
  rw [extendAll, List.map_map]
  rfl

theorem Leads.extendAll {left right : List Span} (leads : Leads left right) (first second : Nat) :
    Leads (extendAll first left) (extendAll second right) := by
  obtain ⟨head, other, leftHead, rightHead, before⟩ := leads
  refine ⟨head.extend first, other.extend second, ?_, ?_, before⟩
  · rw [Span.extendAll, List.head?_map, leftHead]
    rfl
  · rw [Span.extendAll, List.head?_map, rightHead]
    rfl

theorem origins_grownHeads_sublist (lists : List (List Span)) :
    ((grownHeads lists).flatten.map origin).Sublist (lists.flatten.map origin) := by
  have kept : (grownHeads lists).map (List.map origin) =
      (lists.filter fun spans => !continues lists spans).map (List.map origin) := by
    rw [grownHeads, List.map_map]
    apply List.map_congr_left
    intro spans _
    exact map_origin_extendAll _ spans
  rw [List.map_flatten, List.map_flatten, kept]
  exact (List.filter_sublist.map _).flatten

/-- The fold keeps lists in sequence. -/
theorem Sequenced.grownHeads (sequenced : Sequenced lists) : Sequenced (grownHeads lists) where
  inhabited := by
    intro spans member
    obtain ⟨head, heads, rfl⟩ := mem_grownHeads.mp member
    intro empty
    exact sequenced.inhabited head heads.member (List.map_eq_nil_iff.mp empty)
  increasing := by
    apply List.pairwise_map.mpr
    exact (sequenced.increasing.filter _).imp fun leads => leads.extendAll _ _
  rising := by
    intro spans member
    obtain ⟨head, heads, rfl⟩ := mem_grownHeads.mp member
    exact List.pairwise_map.mpr (sequenced.rising head heads.member)
  distinct := sequenced.distinct.sublist (origins_grownHeads_sublist lists)

end Span

end RepeatScan
