import Mathlib.Data.List.Forall2
import RepeatScan.Proofs.Span.Merge
import RepeatScan.Span.Shift

set_option autoImplicit false

/-! Chains of shifted spans. In a collection of span lists whose first spans increase, going back one
token at a time leads from every member to exactly one head, which is no other member moved right, and
from the head the chain reaches forward without a gap. Growing the heads by the reach of their chains
keeps what the collection covers. -/

namespace RepeatScan.Span

/-- One span starts before another: in an earlier source, or earlier in the same. -/
def Before (left right : Span) : Prop :=
  left.source < right.source ∨ left.source = right.source ∧ left.start < right.start

def shiftAll (offset : Nat) (spans : List Span) : List Span :=
  spans.map (shift offset)

def extendAll (offset : Nat) (spans : List Span) : List Span :=
  spans.map (extend offset)

def Leads (left right : List Span) : Prop :=
  ∃ first second, left.head? = some first ∧ right.head? = some second ∧ first.Before second

theorem shiftAll_zero (spans : List Span) : shiftAll 0 spans = spans :=
  List.map_id spans

theorem shiftAll_shiftAll (first second : Nat) (spans : List Span) :
    shiftAll second (shiftAll first spans) = shiftAll (first + second) spans := by
  unfold shiftAll
  rw [List.map_map]
  apply List.map_congr_left
  intro span _
  exact shift_shift first second span

theorem shift_injective {offset : Nat} {left right : Span}
    (same : left.shift offset = right.shift offset) : left = right := by
  cases left
  cases right
  simp only [shift, mk.injEq, Nat.add_right_cancel_iff] at same ⊢
  exact same

theorem shiftAll_injective {offset : Nat} {left right : List Span}
    (same : shiftAll offset left = shiftAll offset right) : left = right :=
  (List.map_inj_right fun _ _ => shift_injective).mp same

theorem Leads.asymm {left right : List Span} (forward : Leads left right) : ¬Leads right left := by
  rintro ⟨second, first, rightHead, leftHead, backward⟩
  obtain ⟨first', second', leftHead', rightHead', before⟩ := forward
  obtain rfl := Option.some.inj (leftHead.symm.trans leftHead')
  obtain rfl := Option.some.inj (rightHead.symm.trans rightHead')
  unfold Before at before backward
  omega

theorem Leads.irrefl (spans : List Span) : ¬Leads spans spans :=
  fun leads => leads.asymm leads

theorem leads_shiftAll {offset : Nat} {spans : List Span} (inhabited : spans ≠ [])
    (moved : 0 < offset) : Leads spans (shiftAll offset spans) := by
  cases spans with
  | nil => exact absurd rfl inhabited
  | cons first later =>
      refine ⟨first, first.shift offset, rfl, rfl, Or.inr ⟨rfl, ?_⟩⟩
      change first.start < first.start + offset
      omega

/-! ### Positions in an ordered collection -/

/-- Span lists in the order of their first spans, none of them empty. -/
structure Ordered (lists : List (List Span)) : Prop where
  inhabited : ∀ spans ∈ lists, spans ≠ []
  increasing : lists.Pairwise Leads

variable {lists : List (List Span)}

theorem Ordered.leads (ordered : Ordered lists) {left right : List Span} {earlier later : Nat}
    (before : earlier < later) (first : lists[earlier]? = some left)
    (second : lists[later]? = some right) : Leads left right := by
  obtain ⟨earlierBound, rfl⟩ := List.getElem?_eq_some_iff.mp first
  obtain ⟨laterBound, rfl⟩ := List.getElem?_eq_some_iff.mp second
  exact List.pairwise_iff_getElem.mp ordered.increasing _ _ earlierBound laterBound before

theorem Ordered.lt_of_leads (ordered : Ordered lists) {left right : List Span}
    {earlier later : Nat} (first : lists[earlier]? = some left)
    (second : lists[later]? = some right) (leads : Leads left right) : earlier < later := by
  rcases Nat.lt_trichotomy earlier later with before | same | behind
  · exact before
  · subst same
    obtain rfl := Option.some.inj (first.symm.trans second)
    exact absurd leads (Leads.irrefl left)
  · exact absurd (ordered.leads behind second first) leads.asymm

theorem Ordered.position_unique (ordered : Ordered lists) {spans : List Span} {left right : Nat}
    (first : lists[left]? = some spans) (second : lists[right]? = some spans) : left = right := by
  rcases Nat.lt_trichotomy left right with before | same | behind
  · exact absurd (ordered.leads before first second) (Leads.irrefl spans)
  · exact same
  · exact absurd (ordered.leads behind second first) (Leads.irrefl spans)

theorem Ordered.inhabited_at (ordered : Ordered lists) {spans : List Span} {position : Nat}
    (stands : lists[position]? = some spans) : spans ≠ [] :=
  ordered.inhabited spans (List.mem_of_getElem? stands)

/-! ### How far a chain reaches -/

/-- The spans are those of another member moved right by a token. -/
def continues (lists : List (List Span)) (spans : List Span) : Bool :=
  lists.any fun earlier => shiftAll 1 earlier == spans

/-- How often spans can be moved right by a token so that they are, every time, in the collection. -/
def reach (lists : List (List Span)) (spans : List Span) : Nat :=
  (List.range lists.length).findIdx fun offset => decide (shiftAll (offset + 1) spans ∉ lists)

theorem continues_iff {spans : List Span} :
    continues lists spans = true ↔ ∃ earlier ∈ lists, shiftAll 1 earlier = spans := by
  simp only [continues, List.any_eq_true, beq_iff_eq]

theorem mem_of_le_reach {spans : List Span} {offset : Nat} (positive : 0 < offset)
    (within : offset ≤ reach lists spans) : shiftAll offset spans ∈ lists := by
  obtain ⟨before, rfl⟩ : ∃ before, offset = before + 1 := ⟨offset - 1, by omega⟩
  have inside : before < reach lists spans := within
  have kept := List.not_of_lt_findIdx inside
  simpa using kept

-- Every link of a chain stands further right than the one before, so a chain ends within the list.
private theorem position_of_chain (ordered : Ordered lists) {spans : List Span} {start : Nat}
    (stands : lists[start]? = some spans) (last : Nat)
    (links : ∀ offset, 0 < offset → offset ≤ last → shiftAll offset spans ∈ lists) :
    ∃ position, lists[position]? = some (shiftAll last spans) ∧ start + last ≤ position := by
  induction last with
  | zero =>
      rw [shiftAll_zero]
      exact ⟨start, stands, Nat.le_refl _⟩
  | succ last ih =>
      obtain ⟨position, before, bound⟩ := ih fun offset positive within =>
        links offset positive (Nat.le_succ_of_le within)
      obtain ⟨next, reached⟩ := List.mem_iff_getElem?.mp
        (links (last + 1) (Nat.succ_pos _) (Nat.le_refl _))
      rw [← shiftAll_shiftAll] at reached ⊢
      have further := ordered.lt_of_leads before reached
        (leads_shiftAll (ordered.inhabited_at before) Nat.one_pos)
      exact ⟨next, reached, by omega⟩

/-- Behind its reach a chain has a gap. -/
theorem Ordered.not_mem_reach_succ (ordered : Ordered lists) {spans : List Span}
    (member : spans ∈ lists) : shiftAll (reach lists spans + 1) spans ∉ lists := by
  obtain ⟨start, stands⟩ := List.mem_iff_getElem?.mp member
  obtain ⟨position, reached, bound⟩ := position_of_chain ordered stands (reach lists spans)
    fun offset positive within => mem_of_le_reach positive within
  have inside : reach lists spans < (List.range lists.length).length := by
    rw [List.length_range]
    have limit := (List.getElem?_eq_some_iff.mp reached).1
    omega
  have stopped := List.findIdx_getElem (w := inside)
  simpa [reach] using stopped

/-- A chain reaches as far as its links go on without a gap. -/
theorem Ordered.reach_eq (ordered : Ordered lists) {spans : List Span} (member : spans ∈ lists)
    {last : Nat} (links : ∀ offset, 0 < offset → offset ≤ last → shiftAll offset spans ∈ lists)
    (gap : shiftAll (last + 1) spans ∉ lists) : reach lists spans = last := by
  rcases Nat.lt_trichotomy (reach lists spans) last with short | same | long
  · exact absurd (links _ (Nat.succ_pos _) short) (ordered.not_mem_reach_succ member)
  · exact same
  · exact absurd (mem_of_le_reach (Nat.succ_pos _) long) gap

/-! ### Heads -/

/-- Spans that head a chain: they are in the collection and continue no other member. -/
structure Head (lists : List (List Span)) (spans : List Span) : Prop where
  member : spans ∈ lists
  starts : continues lists spans = false

theorem Head.mem_link {spans : List Span} (head : Head lists spans) {offset : Nat}
    (within : offset ≤ reach lists spans) : shiftAll offset spans ∈ lists := by
  rcases Nat.eq_zero_or_pos offset with rfl | positive
  · rw [shiftAll_zero]
    exact head.member
  · exact mem_of_le_reach positive within

theorem Ordered.exists_head (ordered : Ordered lists) {spans : List Span}
    (member : spans ∈ lists) :
    ∃ head offset, Head lists head ∧ offset ≤ reach lists head ∧ shiftAll offset head = spans := by
  obtain ⟨position, stands⟩ := List.mem_iff_getElem?.mp member
  induction position using Nat.strongRecOn generalizing spans with
  | ind position ih =>
      cases repeats : continues lists spans with
      | false => exact ⟨spans, 0, ⟨member, repeats⟩, Nat.zero_le _, shiftAll_zero _⟩
      | true =>
          obtain ⟨previous, present, moved⟩ := continues_iff.mp repeats
          obtain ⟨earlier, before⟩ := List.mem_iff_getElem?.mp present
          have leads : Leads previous spans := by
            rw [← moved]
            exact leads_shiftAll (ordered.inhabited previous present) Nat.one_pos
          obtain ⟨head, offset, heads, within, rfl⟩ :=
            ih earlier (ordered.lt_of_leads before stands leads) present before
          rw [shiftAll_shiftAll] at moved
          refine ⟨head, offset + 1, heads, ?_, moved⟩
          rcases Nat.lt_or_eq_of_le within with inside | last
          · exact inside
          · rw [← moved, last] at member
            exact absurd member (ordered.not_mem_reach_succ heads.member)

/-- A head is no later link of a chain. -/
theorem Head.offset_eq_zero {head other : List Span} (first : Head lists head)
    (second : Head lists other) {offset : Nat} (within : offset ≤ reach lists head)
    (same : shiftAll offset head = other) : offset = 0 := by
  rcases Nat.eq_zero_or_pos offset with zero | positive
  · exact zero
  · obtain ⟨before, rfl⟩ : ∃ before, offset = before + 1 := ⟨offset - 1, by omega⟩
    rw [← shiftAll_shiftAll] at same
    have repeats := continues_iff.mpr ⟨_, first.mem_link (Nat.le_of_succ_le within), same⟩
    rw [second.starts] at repeats
    cases repeats

theorem Head.unique {left right : List Span} (first : Head lists left) (second : Head lists right)
    {leftOffset rightOffset : Nat} (leftWithin : leftOffset ≤ reach lists left)
    (rightWithin : rightOffset ≤ reach lists right)
    (same : shiftAll leftOffset left = shiftAll rightOffset right) :
    left = right ∧ leftOffset = rightOffset := by
  -- The chain that has moved further has already passed the head of the other one.
  have aligned : leftOffset = rightOffset := by
    rcases Nat.le_total leftOffset rightOffset with less | more
    · obtain ⟨gap, rfl⟩ := Nat.exists_eq_add_of_le less
      rw [Nat.add_comm leftOffset gap, ← shiftAll_shiftAll] at same
      have none := second.offset_eq_zero first (by omega) (shiftAll_injective same).symm
      omega
    · obtain ⟨gap, rfl⟩ := Nat.exists_eq_add_of_le more
      rw [Nat.add_comm rightOffset gap, ← shiftAll_shiftAll] at same
      have none := first.offset_eq_zero second (by omega) (shiftAll_injective same)
      omega
  rw [aligned] at same
  exact ⟨shiftAll_injective same, aligned⟩

/-! ### Grown heads -/

/-- The heads of a collection in order, each grown by the reach of its chain. -/
def grownHeads (lists : List (List Span)) : List (List Span) :=
  (lists.filter fun spans => !continues lists spans).map fun spans =>
    extendAll (reach lists spans) spans

/-- A span holds another one of the same source. -/
structure Holds (outer inner : Span) : Prop where
  source : outer.source = inner.source
  start : outer.start ≤ inner.start
  stop : inner.stop ≤ outer.stop

theorem mem_grownHeads {grown : List Span} :
    grown ∈ grownHeads lists ↔
      ∃ head, Head lists head ∧ extendAll (reach lists head) head = grown := by
  unfold grownHeads
  rw [List.mem_map]
  apply exists_congr
  intro spans
  rw [List.mem_filter, Bool.not_eq_true']
  exact and_congr_left fun _ => ⟨fun both => ⟨both.1, both.2⟩, fun head => ⟨head.1, head.2⟩⟩

/-- Every member is held, span by span, by a grown head with as many spans. -/
theorem Ordered.exists_grownHead (ordered : Ordered lists) {spans : List Span}
    (member : spans ∈ lists) : ∃ grown ∈ grownHeads lists, List.Forall₂ Holds grown spans := by
  obtain ⟨head, offset, heads, within, rfl⟩ := ordered.exists_head member
  refine ⟨_, mem_grownHeads.mpr ⟨head, heads, rfl⟩, ?_⟩
  unfold extendAll shiftAll
  rw [List.forall₂_map_left_iff, List.forall₂_map_right_iff, List.forall₂_same]
  intro span _
  exact ⟨rfl, Nat.le_add_right _ _, Nat.add_le_add_left within _⟩

/-- Spans that hold others cover their positions. -/
theorem exists_covers_of_holds {outers inners : List Span} (holds : List.Forall₂ Holds outers inners)
    {source position : Nat} (covered : ∃ span ∈ inners, span.Covers source position) :
    ∃ span ∈ outers, span.Covers source position := by
  obtain ⟨span, present, same, after, before⟩ := covered
  obtain ⟨index, bound, rfl⟩ := List.getElem_of_mem present
  have outerBound : index < outers.length := by
    rw [holds.length_eq]
    exact bound
  have outer := holds.get outerBound bound
  exact ⟨_, List.getElem_mem outerBound, outer.source.trans same,
    Nat.le_trans outer.start after, Nat.lt_of_lt_of_le before outer.stop⟩

/-- Growing the heads neither loses nor adds a position. -/
theorem Ordered.covers_grownHeads (ordered : Ordered lists)
    (long : ∀ spans ∈ lists, ∀ span ∈ spans, span.start < span.stop) (source position : Nat) :
    (∃ grown ∈ grownHeads lists, ∃ span ∈ grown, span.Covers source position) ↔
      ∃ spans ∈ lists, ∃ span ∈ spans, span.Covers source position := by
  constructor
  · rintro ⟨grown, member, span, present, covers⟩
    obtain ⟨head, heads, rfl⟩ := mem_grownHeads.mp member
    obtain ⟨first, inside, rfl⟩ := List.mem_map.mp present
    obtain ⟨same, after, before⟩ := covers
    change first.start ≤ position at after
    change position < first.stop + reach lists head at before
    have size := long head heads.member first inside
    -- The link that is moved just far enough for its end to pass the position covers it.
    have within : position + 1 - first.stop ≤ reach lists head := by omega
    have link := heads.mem_link within
    refine ⟨_, link, first.shift (position + 1 - first.stop),
      List.mem_map.mpr ⟨first, inside, rfl⟩, same, ?_, ?_⟩
    · change first.start + (position + 1 - first.stop) ≤ position
      omega
    · change position < first.stop + (position + 1 - first.stop)
      omega
  · rintro ⟨spans, member, span, present, same, after, before⟩
    obtain ⟨grown, kept, holds⟩ := ordered.exists_grownHead member
    exact ⟨grown, kept, exists_covers_of_holds holds ⟨span, present, same, after, before⟩⟩

/-! ### A single chain -/

theorem offset_eq_of_shiftAll {spans : List Span} (inhabited : spans ≠ []) {first second : Nat}
    (same : shiftAll first spans = shiftAll second spans) : first = second := by
  cases spans with
  | nil => exact absurd rfl inhabited
  | cons span later =>
      have starts := congrArg Span.start (List.cons.inj same).1
      exact Nat.add_left_cancel starts

/-- The members of a collection are one list, moved right by every offset up to the last. -/
def ChainOf (lists : List (List Span)) (base : List Span) (last : Nat) : Prop :=
  ∀ spans, spans ∈ lists ↔ ∃ offset, offset ≤ last ∧ shiftAll offset base = spans

section Chain

variable {base : List Span} {last : Nat} (members : ChainOf lists base last)

private theorem eq_singleton_of_pairwise {kept : List (List Span)}
    (increasing : kept.Pairwise Leads) (all : ∀ spans ∈ kept, spans = base)
    (present : base ∈ kept) : kept = [base] := by
  cases kept with
  | nil => cases present
  | cons first others =>
      obtain rfl := all first List.mem_cons_self
      cases others with
      | nil => rfl
      | cons second others =>
          obtain rfl := all second (List.mem_cons_of_mem _ List.mem_cons_self)
          exact absurd (List.rel_of_pairwise_cons increasing List.mem_cons_self)
            (Leads.irrefl second)

include members

private theorem head_of_chain (ordered : Ordered lists) : Head lists base := by
  have member : base ∈ lists := (members base).mpr ⟨0, Nat.zero_le _, shiftAll_zero base⟩
  refine ⟨member, ?_⟩
  cases repeats : continues lists base with
  | false => rfl
  | true =>
      obtain ⟨earlier, present, moved⟩ := continues_iff.mp repeats
      obtain ⟨offset, _, rfl⟩ := (members earlier).mp present
      rw [shiftAll_shiftAll] at moved
      have leads := leads_shiftAll (ordered.inhabited base member) (Nat.succ_pos offset)
      rw [moved] at leads
      exact absurd leads (Leads.irrefl base)

private theorem eq_of_head_of_chain {other : List Span} (head : Head lists other) : other = base := by
  obtain ⟨offset, within, rfl⟩ := (members other).mp head.member
  cases offset with
  | zero => exact shiftAll_zero base
  | succ before =>
      have previous : shiftAll before base ∈ lists :=
        (members _).mpr ⟨before, Nat.le_of_succ_le within, rfl⟩
      have repeats := continues_iff.mpr ⟨_, previous, shiftAll_shiftAll before 1 base⟩
      rw [head.starts] at repeats
      cases repeats

private theorem reach_of_chain (ordered : Ordered lists) : reach lists base = last := by
  have head := head_of_chain members ordered
  apply ordered.reach_eq head.member
  · intro offset _ within
    exact (members _).mpr ⟨offset, within, rfl⟩
  · intro further
    obtain ⟨offset, within, same⟩ := (members _).mp further
    have reached := offset_eq_of_shiftAll (ordered.inhabited base head.member) same
    omega

/-- A collection that is one chain and nothing else grows into its head alone. -/
theorem grownHeads_of_chain (ordered : Ordered lists) :
    grownHeads lists = [extendAll last base] := by
  have head := head_of_chain members ordered
  have single : lists.filter (fun spans => !continues lists spans) = [base] := by
    apply eq_singleton_of_pairwise (ordered.increasing.filter _)
    · intro spans member
      obtain ⟨present, starts⟩ := List.mem_filter.mp member
      exact eq_of_head_of_chain members ⟨present, by simpa using starts⟩
    · exact List.mem_filter.mpr ⟨head.member, by simpa using head.starts⟩
  unfold grownHeads
  rw [single, List.map_singleton, reach_of_chain members ordered]

end Chain

end RepeatScan.Span
