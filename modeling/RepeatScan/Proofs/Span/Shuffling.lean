import Mathlib.Data.List.Perm.Basic
import Mathlib.Data.Multiset.MapFold
import Mathlib.Logic.Equiv.Basic
import RepeatScan.Proofs.Span.Origin
import RepeatScan.Proofs.Span.Renumbering

set_option autoImplicit false

/-! Sources in another order. Windows are merged source by source, so when sources change places the
merged spans are the same, and only the order of the sources among them differs. Lists of spans that
mirror each other in this way have mirrored chains: whichever list is taken up first, the fold
leaves the same heads and grows them alike. -/

namespace RepeatScan.Span

variable {place : Equiv.Perm Nat}

/-! ### Merging source by source -/

private theorem merge_filter_cons (window : Window) (later : List Window) (source : Nat) :
    merge ((window :: later).filter fun window => window.source = source) =
      if window.source = source then
        mergeFrom (ofWindow window) (later.filter fun window => window.source = source)
      else merge (later.filter fun window => window.source = source) := by
  by_cases own : window.source = source
  · rw [List.filter_cons_of_pos (by simpa using own), if_pos own]
    rfl
  · rw [List.filter_cons_of_neg (by simpa using own), if_neg own]

private theorem filter_eq_nil_of_lt {windows : List Window} {source : Nat}
    (beyond : ∀ window ∈ windows, source < window.source) :
    (windows.filter fun window => window.source = source) = [] := by
  apply List.filter_eq_nil_iff.mpr
  intro window member same
  exact Nat.ne_of_gt (beyond window member) (of_decide_eq_true same)

-- The open span stays alone if the next window lies in another source: no later one lies in its own.
private theorem filter_mergeFrom {windows : List Window} (ordered : Orderly windows)
    (current : Span) (behind : ∀ window ∈ windows, current.source ≤ window.source) (source : Nat) :
    ((mergeFrom current windows).filter fun span => span.source = source) =
      if current.source = source then
        mergeFrom current (windows.filter fun window => window.source = source)
      else merge (windows.filter fun window => window.source = source) := by
  induction windows generalizing current with
  | nil =>
      by_cases own : current.source = source
      · simp [mergeFrom, own]
      · simp [mergeFrom, merge, own]
  | cons window later ih =>
      obtain ⟨first, rest⟩ := List.pairwise_cons.mp ordered
      have onward (other : Window) (member : other ∈ later) : window.source ≤ other.source :=
        Window.source_le_of_precedes (first other member)
      rw [mergeFrom]
      by_cases joined : current.source = window.source ∧ window.start ≤ current.stop
      · rw [if_pos joined, ih rest { current with stop := max current.stop window.stop }
          fun other member => behind other (List.mem_cons_of_mem _ member)]
        by_cases own : current.source = source
        · have next : window.source = source := joined.1.symm.trans own
          rw [if_pos own, if_pos own, List.filter_cons_of_pos (by simpa using next), mergeFrom,
            if_pos joined]
        · have next : window.source ≠ source := fun same => own (joined.1.trans same)
          rw [if_neg own, if_neg own, List.filter_cons_of_neg (by simpa using next)]
      · have tail : (mergeFrom (ofWindow window) later).filter (fun span => span.source = source) =
            merge ((window :: later).filter fun window => window.source = source) :=
          (ih rest (ofWindow window) onward).trans (merge_filter_cons window later source).symm
        rw [if_neg joined]
        by_cases own : current.source = source
        · rw [List.filter_cons_of_pos (by simpa using own), tail, if_pos own]
          by_cases next : window.source = source
          · rw [List.filter_cons_of_pos (by simpa using next), mergeFrom, if_neg joined]
            rfl
          · have start := behind window List.mem_cons_self
            rw [filter_eq_nil_of_lt]
            · rfl
            · intro other member
              rcases List.mem_cons.mp member with rfl | inside
              · omega
              · have between := onward other inside
                omega
        · rw [List.filter_cons_of_neg (by simpa using own), tail, if_neg own]

/-- The merged spans of a source are made of its own windows. -/
theorem filter_merge {windows : List Window} (ordered : Orderly windows) (source : Nat) :
    ((merge windows).filter fun span => span.source = source) =
      merge (windows.filter fun window => window.source = source) := by
  cases windows with
  | nil => rfl
  | cons window later =>
      obtain ⟨first, rest⟩ := List.pairwise_cons.mp ordered
      rw [merge, merge_filter_cons]
      exact filter_mergeFrom rest _
        (fun other member => Window.source_le_of_precedes (first other member)) source

theorem orderly_renumber {windows : List Window} (ordered : Orderly windows) {source : Nat}
    (own : ∀ window ∈ windows, window.source = source) :
    Orderly (windows.map (Window.renumber place)) := by
  apply List.pairwise_map.mpr
  refine ordered.imp_of_mem ?_
  intro left right leftMember rightMember precedes
  have same := (own left leftMember).trans (own right rightMember).symm
  unfold Window.precedes at precedes ⊢
  change (decide (place left.source < place right.source) ||
    place left.source == place right.source && _) = true
  rw [same] at precedes ⊢
  rw [decide_eq_false (Nat.lt_irrefl _), beq_self_eq_true] at precedes ⊢
  exact precedes

private theorem filter_renumber {Item : Type} (source : Nat) (number : Item → Nat)
    (renumber : Item → Item) (renumbered : ∀ item, number (renumber item) = place (number item))
    (items : List Item) :
    ((items.map renumber).filter fun item => number item = place source) =
      (items.filter fun item => number item = source).map renumber := by
  rw [List.filter_map]
  congr 1
  apply List.filter_congr
  intro item _
  rw [Function.comp_apply, renumbered]
  exact decide_eq_decide.mpr place.injective.eq_iff

/-- Spans are the same up to their order when they are so source by source. -/
theorem perm_of_filter {left right : List Span}
    (each : ∀ source, (left.filter fun span => span.source = source).Perm
      (right.filter fun span => span.source = source)) : left.Perm right := by
  apply List.perm_iff_count.mpr
  intro span
  have own (spans : List Span) :
      (spans.filter fun other => other.source = span.source).count span = spans.count span :=
    List.count_filter (decide_eq_true rfl)
  rw [← own left, ← own right, (each span.source).count_eq]

/-- When sources change places, their windows are merged into the same spans. -/
theorem merge_perm {left right : List Window} (leftOrdered : Orderly left)
    (rightOrdered : Orderly right) (same : right.Perm (left.map (Window.renumber place))) :
    (merge right).Perm (renumberAll place (merge left)) := by
  apply perm_of_filter
  intro number
  obtain ⟨source, rfl⟩ := place.surjective number
  have own : (left.filter fun window => window.source = source).Pairwise
      fun first second => first.precedes second = true := leftOrdered.filter _
  have windows : right.filter (fun window => window.source = place source) =
      (left.filter fun window => window.source = source).map (Window.renumber place) := by
    apply Window.eq_of_perm_of_pairwise
    · rw [← filter_renumber source Window.source (Window.renumber place) fun _ => rfl]
      exact same.filter _
    · exact rightOrdered.filter _
    · apply orderly_renumber own
      intro window member
      exact of_decide_eq_true (List.mem_filter.mp member).2
  rw [filter_merge rightOrdered, windows, merge_renumber place.injective,
    ← filter_merge leftOrdered, renumberAll, renumberAll,
    ← filter_renumber source Span.source (renumber place) fun _ => rfl]

/-! ### Mirrored lists -/

/-- Two lists hold the same spans, in any order, the second one under other numbers. -/
def Matches (place : Equiv.Perm Nat) (left right : List Span) : Prop :=
  right.Perm (renumberAll place left)

/-- Every list of spans has one that matches it. -/
def Mirrors (place : Equiv.Perm Nat) (left right : List (List Span)) : Prop :=
  ∀ spans ∈ left, ∃ other ∈ right, Matches place spans other

theorem Matches.flip {left right : List Span} (matched : Matches place left right) :
    Matches place.symm right left := by
  have back : renumberAll place.symm (renumberAll place left) = left := by
    rw [renumberAll, renumberAll, List.map_map]
    have same (span : Span) : (span.renumber place).renumber place.symm = span :=
      congrArg (Span.mk · span.start span.stop) (place.symm_apply_apply span.source)
    exact (List.map_congr_left fun span _ => same span).trans (List.map_id left)
  have moved := (List.Perm.map (renumber place.symm) matched).symm
  rwa [← renumberAll, ← renumberAll, back] at moved

theorem Matches.shiftAll {left right : List Span} (matched : Matches place left right)
    (offset : Nat) : Matches place (shiftAll offset left) (shiftAll offset right) := by
  unfold Matches
  rw [← shiftAll_renumberAll]
  exact List.Perm.map (shift offset) matched

theorem Matches.extendAll {left right : List Span} (matched : Matches place left right)
    (offset : Nat) : Matches place (extendAll offset left) (extendAll offset right) := by
  unfold Matches
  rw [← extendAll_renumberAll]
  exact List.Perm.map (extend offset) matched

theorem eq_of_perm_of_rising {left right : List Span} (same : left.Perm right)
    (leftRising : left.Pairwise Before) (rightRising : right.Pairwise Before) : left = right := by
  refine same.eq_of_pairwise ?_ leftRising rightRising
  intro first second _ _ forward backward
  unfold Before at forward backward
  omega

theorem rising_shiftAll {spans : List Span} (rising : spans.Pairwise Before) (offset : Nat) :
    (shiftAll offset spans).Pairwise Before := by
  apply List.pairwise_map.mpr
  refine rising.imp ?_
  intro left right before
  exact before.imp id fun same => ⟨same.1, Nat.add_lt_add_right same.2 offset⟩

variable {left right : List (List Span)}

/-- What matches a member is a member itself. -/
theorem Mirrors.mem (forward : Mirrors place left right) (sequenced : Sequenced right)
    {spans other : List Span} (matched : Matches place spans other)
    (rising : other.Pairwise Before) (member : spans ∈ left) : other ∈ right := by
  obtain ⟨found, present, same⟩ := forward spans member
  rwa [eq_of_perm_of_rising (same.trans matched.symm) (sequenced.rising found present) rising]
    at present

theorem Mirrors.continues (forward : Mirrors place left right) (sequenced : Sequenced right)
    {spans other : List Span} (matched : Matches place spans other)
    (rising : other.Pairwise Before) (repeats : continues left spans = true) :
    continues right other = true := by
  obtain ⟨earlier, member, rfl⟩ := continues_iff.mp repeats
  obtain ⟨found, present, same⟩ := forward earlier member
  have moved := eq_of_perm_of_rising ((same.shiftAll 1).trans matched.symm)
    (rising_shiftAll (sequenced.rising found present) 1) rising
  exact continues_iff.mpr ⟨found, present, moved⟩

section Both

variable (leftSequenced : Sequenced left) (rightSequenced : Sequenced right)
  (forward : Mirrors place left right) (backward : Mirrors place.symm right left)

include leftSequenced rightSequenced forward backward

/-- Lists that match each other have chains of the same reach. -/
theorem Mirrors.reach_eq {spans other : List Span} (member : spans ∈ left) (present : other ∈ right)
    (matched : Matches place spans other) : reach right other = reach left spans := by
  have rising := rightSequenced.rising other present
  apply rightSequenced.toOrdered.reach_eq present
  · intro offset positive within
    exact forward.mem rightSequenced (matched.shiftAll offset) (rising_shiftAll rising offset)
      (mem_of_le_reach positive within)
  · intro further
    have again := backward.mem leftSequenced (matched.shiftAll _).flip
      (rising_shiftAll (leftSequenced.rising spans member) _) further
    exact leftSequenced.toOrdered.not_mem_reach_succ member again

/-- The fold keeps mirrored lists mirrored. -/
theorem Mirrors.grownHeads : Mirrors place (grownHeads left) (grownHeads right) := by
  intro grown listed
  obtain ⟨spans, head, rfl⟩ := mem_grownHeads.mp listed
  obtain ⟨other, present, matched⟩ := forward spans head.member
  have starts : Span.continues right other = false := by
    cases repeats : Span.continues right other with
    | false => rfl
    | true =>
        have again := backward.continues leftSequenced matched.flip
          (leftSequenced.rising spans head.member) repeats
        rw [head.starts] at again
        cases again
  have reached :=
    Mirrors.reach_eq leftSequenced rightSequenced forward backward head.member present matched
  refine ⟨_, mem_grownHeads.mpr ⟨other, ⟨present, starts⟩, rfl⟩, ?_⟩
  rw [reached]
  exact matched.extendAll _

end Both

/-- The lists of a sequence are different even when the order of their spans is left aside. -/
theorem Sequenced.nodup_coe (sequenced : Sequenced left) :
    (left.map Multiset.ofList).Nodup := by
  apply List.pairwise_map.mpr
  refine sequenced.increasing.imp_of_mem ?_
  intro first second firstMember secondMember leads same
  obtain rfl := eq_of_perm_of_rising (Multiset.coe_eq_coe.mp same)
    (sequenced.rising first firstMember) (sequenced.rising second secondMember)
  exact Leads.irrefl first leads

/-- Sequences that mirror each other hold the same lists, each matched with one of the other. -/
theorem Mirrors.rel (leftSequenced : Sequenced left) (rightSequenced : Sequenced right)
    (forward : Mirrors place left right) (backward : Mirrors place.symm right left) :
    Multiset.Rel (Matches place) left right := by
  have renumbered : (left.map fun spans => Multiset.ofList (renumberAll place spans)).Nodup := by
    have injective : Function.Injective (Multiset.map (renumber place)) :=
      Multiset.map_injective (renumber_injective place.injective)
    have nodup := leftSequenced.nodup_coe.map injective
    rwa [List.map_map] at nodup
  have same : (left.map fun spans => Multiset.ofList (renumberAll place spans)).Perm
      (right.map Multiset.ofList) := by
    apply (List.perm_ext_iff_of_nodup renumbered rightSequenced.nodup_coe).mpr
    intro held
    constructor
    · intro listed
      obtain ⟨spans, member, rfl⟩ := List.mem_map.mp listed
      obtain ⟨other, present, matched⟩ := forward spans member
      exact List.mem_map.mpr ⟨other, present, Multiset.coe_eq_coe.mpr matched⟩
    · intro listed
      obtain ⟨other, present, rfl⟩ := List.mem_map.mp listed
      obtain ⟨spans, member, matched⟩ := backward other present
      have flipped := matched.flip
      rw [Equiv.symm_symm] at flipped
      exact List.mem_map.mpr ⟨spans, member, Multiset.coe_eq_coe.mpr flipped.symm⟩
  have equal := Multiset.rel_eq.mpr (Multiset.coe_eq_coe.mpr same)
  rw [← Multiset.map_coe, ← Multiset.map_coe, Multiset.rel_map] at equal
  exact equal.mono fun _ _ _ _ matched => (Multiset.coe_eq_coe.mp matched).symm

end RepeatScan.Span
