import Mathlib.Data.List.Pairwise
import Mathlib.Logic.Relation
import RepeatScan.Proofs.Span.Edges
import RepeatScan.Proofs.Span.Origin

set_option autoImplicit false

/-! Merged spans are maximal. The windows may have any sizes and only their sources and starts have to
be in order. Every window lies in one span and in no other, two windows lie in the same one exactly
when windows that overlap or touch lead from the one to the other, and merging the spans once more
changes nothing. -/

namespace RepeatScan

namespace Window

/-- Two windows of one source overlap, or one of them starts where the other stops. -/
structure Meets (left right : Window) : Prop where
  source : left.source = right.source
  before : left.start ≤ right.stop
  behind : right.start ≤ left.stop

/-- Windows of a list lead from one of them to another, each meeting the one before. -/
def Linked (windows : List Window) : Window → Window → Prop :=
  Relation.ReflTransGen fun left right => left ∈ windows ∧ right ∈ windows ∧ left.Meets right

theorem start_le_stop (window : Window) : window.start ≤ window.stop :=
  Nat.le_add_right window.start window.size

theorem Meets.symm {left right : Window} (meets : left.Meets right) : right.Meets left :=
  ⟨meets.source.symm, meets.behind, meets.before⟩

theorem meets_of_start {left right : Window} (source : left.source = right.source)
    (start : left.start = right.start) : left.Meets right where
  source := source
  before := start ▸ right.start_le_stop
  behind := start ▸ left.start_le_stop

theorem Linked.symm {windows : List Window} {left right : Window}
    (linked : Linked windows left right) : Linked windows right left := by
  induction linked with
  | refl => exact Relation.ReflTransGen.refl
  | tail _ step ih =>
      exact Relation.ReflTransGen.head ⟨step.2.1, step.1, step.2.2.symm⟩ ih

end Window

namespace Span

open Window (Linked Meets)

/-- A span as a window. -/
def toWindow (span : Span) : Window :=
  ⟨span.source, span.start, span.stop - span.start⟩

theorem ofWindow_toWindow {span : Span} (upward : span.start ≤ span.stop) :
    ofWindow span.toWindow = span := by
  unfold ofWindow toWindow Window.stop
  rw [Nat.add_sub_cancel' upward]

theorem start_le_stop_of_mem_merge {windows : List Window} {span : Span}
    (member : span ∈ merge windows) : span.start ≤ span.stop :=
  size_le_of_mem_merge (fun window _ => Nat.zero_le window.size) member

/-! ### Every window lies in one span -/

/-- A window lies in a span and is linked with the windows that the span starts with. -/
structure Gathers (windows : List Window) (span : Span) (window : Window) : Prop where
  holds : span.Holds (ofWindow window)
  linked : ∀ first ∈ windows, first.source = span.source → first.start = span.start →
    Linked windows first window

/-- While windows are merged, some window stops where the open span does. All windows to come start
no earlier, so that one of them meets it as soon as it joins the span. -/
structure Frontier (windows later : List Window) (current : Span) (last : Window) : Prop where
  member : last ∈ windows
  gathered : Gathers windows current last
  stop : last.stop = current.stop
  behind : ∀ window ∈ later, current.source = window.source → last.start ≤ window.start

variable {windows later : List Window} {current : Span} {last window : Window}

theorem gathers_ofWindow (member : window ∈ windows) :
    Gathers windows (ofWindow window) window where
  holds := ⟨rfl, Nat.le_refl _, Nat.le_refl _⟩
  linked := by
    intro first present source start
    exact Relation.ReflTransGen.single ⟨present, member, Window.meets_of_start source start⟩

theorem frontier_ofWindow (member : window ∈ windows) (sorted : Sorted (window :: later)) :
    Frontier windows later (ofWindow window) window where
  member := member
  gathered := gathers_ofWindow member
  stop := rfl
  behind := fun _ present same => (List.rel_of_pairwise_cons sorted present).start_le same

private theorem Gathers.grow (gathered : Gathers windows current last) {stop : Nat}
    (longer : current.stop ≤ stop) : Gathers windows { current with stop := stop } last :=
  ⟨⟨gathered.holds.source, gathered.holds.start, Nat.le_trans gathered.holds.stop longer⟩,
    gathered.linked⟩

private theorem Frontier.gathers (frontier : Frontier windows (window :: later) current last)
    (member : window ∈ windows)
    (joined : current.source = window.source ∧ window.start ≤ current.stop) :
    Gathers windows { current with stop := max current.stop window.stop } window := by
  have start := frontier.behind window List.mem_cons_self joined.1
  have meets : last.Meets window :=
    ⟨frontier.gathered.holds.source.symm.trans joined.1,
      Nat.le_trans start window.start_le_stop, frontier.stop ▸ joined.2⟩
  constructor
  · exact ⟨joined.1, Nat.le_trans frontier.gathered.holds.start start, Nat.le_max_right _ _⟩
  · intro first present source begins
    exact (frontier.gathered.linked first present source begins).tail
      ⟨frontier.member, member, meets⟩

private theorem Frontier.join (frontier : Frontier windows (window :: later) current last)
    (member : window ∈ windows) (sorted : Sorted (window :: later))
    (joined : current.source = window.source ∧ window.start ≤ current.stop) :
    ∃ next, Frontier windows later { current with stop := max current.stop window.stop } next := by
  rcases Nat.le_total window.stop current.stop with shorter | longer
  · refine ⟨last, frontier.member, frontier.gathered.grow (Nat.le_max_left _ _), ?_, ?_⟩
    · exact frontier.stop.trans (Nat.max_eq_left shorter).symm
    · intro other present same
      exact frontier.behind other (List.mem_cons_of_mem _ present) same
  · refine ⟨window, member, frontier.gathers member joined, (Nat.max_eq_right longer).symm, ?_⟩
    intro other present same
    exact (List.rel_of_pairwise_cons sorted present).start_le (joined.1.symm.trans same)

-- The frontier moves along with the open span: it links the next window to join with all before.
private theorem exists_gathers_mergeFrom (sorted : Sorted later) (inside : later ⊆ windows)
    (frontier : Frontier windows later current last)
    (placed : Gathers windows current window ∨ window ∈ later) :
    ∃ span ∈ mergeFrom current later, Gathers windows span window := by
  induction later generalizing current last with
  | nil =>
      rcases placed with gathered | absent
      · exact ⟨current, List.mem_singleton_self current, gathered⟩
      · cases absent
  | cons next later ih =>
      obtain ⟨member, rest⟩ := List.cons_subset.mp inside
      rw [mergeFrom]
      by_cases joined : current.source = next.source ∧ next.start ≤ current.stop
      · obtain ⟨reached, further⟩ := frontier.join member sorted joined
        rw [if_pos joined]
        apply ih sorted.of_cons rest further
        rcases placed with gathered | present
        · exact Or.inl (gathered.grow (Nat.le_max_left _ _))
        · rcases List.mem_cons.mp present with rfl | below
          · exact Or.inl (frontier.gathers member joined)
          · exact Or.inr below
      · rw [if_neg joined, List.exists_mem_cons_iff]
        rcases placed with gathered | present
        · exact Or.inl gathered
        · right
          apply ih sorted.of_cons rest (frontier_ofWindow member sorted)
          rcases List.mem_cons.mp present with rfl | below
          · exact Or.inl (gathers_ofWindow member)
          · exact Or.inr below

theorem exists_gathers (sorted : Sorted windows) (member : window ∈ windows) :
    ∃ span ∈ merge windows, Gathers windows span window := by
  cases windows with
  | nil => cases member
  | cons first later =>
      have opens : first ∈ first :: later := List.mem_cons_self
      apply exists_gathers_mergeFrom sorted.of_cons (List.subset_cons_self first later)
        (frontier_ofWindow opens sorted)
      rcases List.mem_cons.mp member with rfl | below
      · exact Or.inl (gathers_ofWindow opens)
      · exact Or.inr below

/-! ### Windows that meet lie in the same span -/

private theorem not_meets_of_apart {left right : Span} (gap : left.Apart right)
    {first second : Window} (leftHolds : left.Holds (ofWindow first))
    (rightHolds : right.Holds (ofWindow second)) : ¬first.Meets second := by
  intro meets
  have between := gap (leftHolds.source.trans (meets.source.trans rightHolds.source.symm))
  have upper : first.stop ≤ left.stop := leftHolds.stop
  have lower : right.start ≤ second.start := rightHolds.start
  have touching := meets.behind
  omega

theorem eq_of_meets {spans : List Span} (apart : spans.Pairwise Apart) {left right : Span}
    (leftMember : left ∈ spans) (rightMember : right ∈ spans) {first second : Window}
    (leftHolds : left.Holds (ofWindow first)) (rightHolds : right.Holds (ofWindow second))
    (meets : first.Meets second) : left = right := by
  by_contra different
  have symmetric : Std.Symm fun left right : Span => left.Apart right ∨ right.Apart left :=
    ⟨fun _ _ => Or.symm⟩
  have gaps : spans.Pairwise fun left right => left.Apart right ∨ right.Apart left :=
    apart.imp Or.inl
  rcases gaps.forall leftMember rightMember different with forward | backward
  · exact not_meets_of_apart forward leftHolds rightHolds meets
  · exact not_meets_of_apart backward rightHolds leftHolds meets.symm

theorem holds_of_linked (sorted : Sorted windows) {span : Span} (member : span ∈ merge windows)
    {first : Window} (holds : span.Holds (ofWindow first)) (linked : Linked windows first window) :
    span.Holds (ofWindow window) := by
  induction linked with
  | refl => exact holds
  | tail _ step ih =>
      obtain ⟨other, present, gathered⟩ := exists_gathers sorted step.2.1
      rw [eq_of_meets (apart_merge sorted) member present ih gathered.holds step.2.2]
      exact gathered.holds

/-- The windows of a span are linked by way of one with which the span starts. -/
theorem linked_of_holds (sorted : Sorted windows) {span : Span} (member : span ∈ merge windows)
    {left right : Window} (leftMember : left ∈ windows) (rightMember : right ∈ windows)
    (leftHolds : span.Holds (ofWindow left)) (rightHolds : span.Holds (ofWindow right)) :
    Linked windows left right := by
  have gathers {window : Window} (present : window ∈ windows)
      (holds : span.Holds (ofWindow window)) : Gathers windows span window := by
    obtain ⟨other, listed, gathered⟩ := exists_gathers sorted present
    have meets : window.Meets window := Window.meets_of_start rfl rfl
    rw [eq_of_meets (apart_merge sorted) member listed holds gathered.holds meets]
    exact gathered
  obtain ⟨first, present, source, start⟩ := (spanned_of_mem_merge member).first
  have back := (gathers leftMember leftHolds).linked first present source start
  have onward := (gathers rightMember rightHolds).linked first present source start
  exact back.symm.trans onward

/-! ### The order of the spans -/

theorem rising_merge (sorted : Sorted windows) : (merge windows).Pairwise Before := by
  have origins : (windows.map Window.origin).Pairwise fun left right =>
      left.1 < right.1 ∨ left.1 = right.1 ∧ left.2 ≤ right.2 :=
    List.pairwise_map.mpr sorted
  have starts := List.pairwise_map.mp (origins.sublist (origins_merge_sublist windows))
  refine (starts.and (apart_merge sorted)).imp_of_mem ?_
  intro left right leftMember _ both
  rcases both.1 with earlier | same
  · exact Or.inl earlier
  · have gap := both.2 same.1
    have upward := start_le_stop_of_mem_merge leftMember
    exact Or.inr ⟨same.1, by omega⟩

theorem merge_map_toWindow {spans : List Span} (apart : spans.Pairwise Apart)
    (upward : ∀ span ∈ spans, span.start ≤ span.stop) : merge (spans.map toWindow) = spans := by
  have gaps : (spans.map toWindow).Pairwise fun left right =>
      left.source = right.source → left.stop < right.start := by
    apply List.pairwise_map.mpr
    refine apart.imp_of_mem ?_
    intro left right member _ gap
    have stop : left.toWindow.stop = left.stop :=
      congrArg Span.stop (ofWindow_toWindow (upward left member))
    rw [stop]
    exact gap
  rw [merge_eq_separate gaps, separate, List.map_map]
  refine (List.map_congr_left ?_).trans (List.map_id spans)
  intro span member
  exact ofWindow_toWindow (upward span member)

/-- What is left of windows when all that overlap or touch are joined. -/
structure Joined (windows : List Window) (spans : List Span) : Prop where
  rising : spans.Pairwise Before
  apart : spans.Pairwise Apart
  spanned : ∀ span ∈ spans, Spanned windows span
  covers : ∀ source position, (∃ span ∈ spans, span.Covers source position) ↔
    ∃ window ∈ windows, (ofWindow window).Covers source position
  holds : ∀ window ∈ windows, ∃! span, span ∈ spans ∧ span.Holds (ofWindow window)
  linked : ∀ left ∈ windows, ∀ right ∈ windows,
    (∃ span ∈ spans, span.Holds (ofWindow left) ∧ span.Holds (ofWindow right)) ↔
      Linked windows left right

/-- Of windows in the order of their sources and starts, merging leaves the maximal spans: in order
and with gaps, from the start of a window to the stop of one, over the same positions, every window in
exactly one of them, and two windows in the same one exactly when they are linked. Nothing is left to
be merged in them. -/
theorem merge_joined (sorted : Sorted windows) :
    Joined windows (merge windows) ∧ merge ((merge windows).map toWindow) = merge windows := by
  have gaps := apart_merge sorted
  refine ⟨⟨rising_merge sorted, gaps, fun _ => spanned_of_mem_merge, covers_merge sorted, ?_, ?_⟩,
    merge_map_toWindow gaps fun _ => start_le_stop_of_mem_merge⟩
  · intro window member
    obtain ⟨span, listed, gathered⟩ := exists_gathers sorted member
    refine ⟨span, ⟨listed, gathered.holds⟩, ?_⟩
    intro other both
    have meets : window.Meets window := Window.meets_of_start rfl rfl
    exact eq_of_meets gaps both.1 listed both.2 gathered.holds meets
  · intro left leftMember right rightMember
    constructor
    · intro together
      obtain ⟨span, listed, leftHolds, rightHolds⟩ := together
      exact linked_of_holds sorted listed leftMember rightMember leftHolds rightHolds
    · intro linked
      obtain ⟨span, listed, gathered⟩ := exists_gathers sorted leftMember
      exact ⟨span, listed, gathered.holds, holds_of_linked sorted listed gathered.holds linked⟩

/-- Windows of several sizes in two sources: one inside another, one without tokens, two that touch. -/
def uneven : List Window :=
  [⟨0, 0, 9⟩, ⟨0, 2, 3⟩, ⟨0, 9, 2⟩, ⟨0, 20, 0⟩, ⟨1, 5, 4⟩, ⟨1, 5, 1⟩]

theorem merge_joined_uneven :
    Joined uneven [⟨0, 0, 11⟩, ⟨0, 20, 20⟩, ⟨1, 5, 9⟩] ∧
      merge [⟨0, 0, 11⟩, ⟨0, 20, 0⟩, ⟨1, 5, 4⟩] = [⟨0, 0, 11⟩, ⟨0, 20, 20⟩, ⟨1, 5, 9⟩] := by
  have sorted : Sorted uneven := by simp [uneven, Window.Ahead]
  exact merge_joined sorted

end Span

end RepeatScan
