import Mathlib.Logic.Function.Basic
import RepeatScan.Proofs.Span.Fold

set_option autoImplicit false

/-! Sources under other numbers. When every source gets a number of its own in place of the one it
had, windows are merged as before, and a list of spans continues and reaches as it did. So the fold
leaves the same groups under the new numbers. -/

namespace RepeatScan

variable {place : Nat → Nat}

def Window.renumber (place : Nat → Nat) (window : Window) : Window :=
  { window with source := place window.source }

theorem Window.renumber_injective (injective : Function.Injective place) :
    Function.Injective (renumber place) := by
  intro left right same
  cases left
  cases right
  simp only [renumber, mk.injEq] at same ⊢
  exact ⟨injective same.1, same.2⟩

namespace Span

def renumber (place : Nat → Nat) (span : Span) : Span :=
  { span with source := place span.source }

def renumberAll (place : Nat → Nat) (spans : List Span) : List Span :=
  spans.map (renumber place)

theorem renumber_injective (injective : Function.Injective place) :
    Function.Injective (renumber place) := by
  intro left right same
  cases left
  cases right
  simp only [renumber, mk.injEq] at same ⊢
  exact ⟨injective same.1, same.2⟩

theorem renumberAll_injective (injective : Function.Injective place) :
    Function.Injective (renumberAll place) :=
  List.map_injective_iff.mpr (renumber_injective injective)

private theorem mergeFrom_renumber (injective : Function.Injective place) (current : Span)
    (windows : List Window) :
    mergeFrom (current.renumber place) (windows.map (Window.renumber place)) =
      renumberAll place (mergeFrom current windows) := by
  induction windows generalizing current with
  | nil => rfl
  | cons window later ih =>
      have same : (current.renumber place).source = (window.renumber place).source ↔
          current.source = window.source := injective.eq_iff
      rw [List.map_cons, mergeFrom, mergeFrom]
      by_cases joined : current.source = window.source ∧ window.start ≤ current.stop
      · rw [if_pos joined, if_pos ⟨same.mpr joined.1, joined.2⟩]
        exact ih { current with stop := max current.stop window.stop }
      · rw [if_neg joined, if_neg fun both => joined ⟨same.mp both.1, both.2⟩]
        exact congrArg (current.renumber place :: ·) (ih (ofWindow window))

theorem merge_renumber (injective : Function.Injective place) (windows : List Window) :
    merge (windows.map (Window.renumber place)) = renumberAll place (merge windows) := by
  cases windows with
  | nil => rfl
  | cons window later => exact mergeFrom_renumber injective (ofWindow window) later

theorem separate_renumber (windows : List Window) :
    separate (windows.map (Window.renumber place)) = renumberAll place (separate windows) := by
  rw [separate, renumberAll, separate, List.map_map, List.map_map]
  rfl

theorem shiftAll_renumberAll (offset : Nat) (spans : List Span) :
    shiftAll offset (renumberAll place spans) = renumberAll place (shiftAll offset spans) := by
  rw [shiftAll, renumberAll, renumberAll, shiftAll, List.map_map, List.map_map]
  rfl

theorem extendAll_renumberAll (offset : Nat) (spans : List Span) :
    extendAll offset (renumberAll place spans) = renumberAll place (extendAll offset spans) := by
  rw [extendAll, renumberAll, renumberAll, extendAll, List.map_map, List.map_map]
  rfl

theorem continues_renumber (injective : Function.Injective place) (lists : List (List Span))
    (spans : List Span) :
    continues (lists.map (renumberAll place)) (renumberAll place spans) =
      continues lists spans := by
  apply Bool.eq_iff_iff.mpr
  simp only [continues_iff, List.mem_map, exists_exists_and_eq_and, shiftAll_renumberAll,
    (renumberAll_injective injective).eq_iff]

theorem reach_renumber (injective : Function.Injective place) (lists : List (List Span))
    (spans : List Span) :
    reach (lists.map (renumberAll place)) (renumberAll place spans) = reach lists spans := by
  unfold reach
  rw [List.length_map]
  congr 1
  funext offset
  apply decide_eq_decide.mpr
  rw [shiftAll_renumberAll, List.mem_map_of_injective (renumberAll_injective injective)]

end Span

namespace SpanGroup

variable {Key : Type} {relabel : Key → Key} {groups : List (SpanGroup Key)}

def renumber (relabel : Key → Key) (place : Nat → Nat) (group : SpanGroup Key) : SpanGroup Key :=
  ⟨relabel group.key, Span.renumberAll place group.spans⟩

theorem lists_renumber (groups : List (SpanGroup Key)) :
    lists (groups.map (renumber relabel place)) = (lists groups).map (Span.renumberAll place) := by
  rw [lists, lists, List.map_map, List.map_map]
  rfl

theorem survivors_renumber (injective : Function.Injective place) (groups : List (SpanGroup Key)) :
    survivors (groups.map (renumber relabel place)) =
      (survivors groups).map (renumber relabel place) := by
  unfold survivors
  rw [lists_renumber, List.filter_map, List.map_map, List.map_map]
  have kept (group : SpanGroup Key) :
      Span.continues ((lists groups).map (Span.renumberAll place))
          (group.renumber relabel place).spans = Span.continues (lists groups) group.spans :=
    Span.continues_renumber injective _ _
  simp only [Function.comp_def, kept]
  apply List.map_congr_left
  intro group _
  have reached : Span.reach ((lists groups).map (Span.renumberAll place))
      (group.renumber relabel place).spans = Span.reach (lists groups) group.spans :=
    Span.reach_renumber injective _ _
  rw [reached, extend, renumber]
  exact congrArg (SpanGroup.mk _) (Span.extendAll_renumberAll _ _)

/-- The fold does not look at the numbers. -/
theorem coalesce_renumber (injective : Function.Injective place)
    (ordered : Span.Ordered (lists groups))
    (renumbered : Span.Ordered (lists (groups.map (renumber relabel place)))) :
    coalesce (groups.map (renumber relabel place)) =
      (coalesce groups).map (renumber relabel place) := by
  rw [coalesce_eq_survivors renumbered, coalesce_eq_survivors ordered,
    survivors_renumber injective]

end SpanGroup

end RepeatScan
