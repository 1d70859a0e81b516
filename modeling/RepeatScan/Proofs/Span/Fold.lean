import RepeatScan.Proofs.Span.Chain

set_option autoImplicit false

/-! The fold of shifted groups. Of groups in order the fold keeps the heads of the chains, in order, and
each grows by the reach of its chain. The state of the fold is the list of free positions: before the
turn of a position, the free ones are those that no earlier head has absorbed. -/

namespace RepeatScan.SpanGroup

open RepeatScan.Span (Head Ordered continues reach shiftAll)

variable {Key : Type} {groups : List (SpanGroup Key)}

def lists (groups : List (SpanGroup Key)) : List (List Span) :=
  groups.map (·.spans)

/-- What the fold leaves: the heads, each grown by the reach of its chain. -/
def survivors (groups : List (SpanGroup Key)) : List (SpanGroup Key) :=
  (groups.filter fun group => !continues (lists groups) group.spans).map fun group =>
    group.extend (reach (lists groups) group.spans)

structure HeadAt (groups : List (SpanGroup Key)) (spans : List Span) (position : Nat) : Prop where
  stands : (lists groups)[position]? = some spans
  starts : continues (lists groups) spans = false

theorem HeadAt.head {spans : List Span} {position : Nat} (atPosition : HeadAt groups spans position) :
    Head (lists groups) spans :=
  ⟨List.mem_of_getElem? atPosition.stands, atPosition.starts⟩

/-- A head that stands before the limit absorbs the group at a position. -/
def AbsorbedBefore (groups : List (SpanGroup Key)) (limit position : Nat) : Prop :=
  ∃ head start, start < limit ∧ HeadAt groups head start ∧
    ∃ offset, 0 < offset ∧ offset ≤ reach (lists groups) head ∧
      (lists groups)[position]? = some (shiftAll offset head)

theorem lists_getElem? {group : SpanGroup Key} {position : Nat}
    (found : groups[position]? = some group) : (lists groups)[position]? = some group.spans := by
  rw [lists, List.getElem?_map, found]
  rfl

theorem lt_length_of_stands {spans : List Span} {position : Nat}
    (stands : (lists groups)[position]? = some spans) : position < groups.length := by
  rw [← List.length_map (·.spans)]
  exact (List.getElem?_eq_some_iff.mp stands).1

/-! ### Looking spans up -/

theorem lastPosition?_stands {spans : List Span} {position : Nat}
    (found : lastPosition? groups spans = some position) :
    (lists groups)[position]? = some spans := by
  obtain ⟨⟨group, position⟩, last, rfl⟩ := Option.map_eq_some_iff.mp found
  have member := List.mem_reverse.mp (List.mem_of_find?_eq_some last)
  have same := List.find?_some last
  rw [lists_getElem? (List.mem_zipIdx_iff_getElem?.mp member), eq_of_beq same]

theorem lastPosition?_eq_none {spans : List Span} (absent : spans ∉ lists groups) :
    lastPosition? groups spans = none := by
  cases found : lastPosition? groups spans with
  | none => rfl
  | some position => exact absurd (List.mem_of_getElem? (lastPosition?_stands found)) absent

theorem lastPosition?_eq_some (ordered : Ordered (lists groups)) {spans : List Span}
    {position : Nat} (stands : (lists groups)[position]? = some spans) :
    lastPosition? groups spans = some position := by
  cases found : lastPosition? groups spans with
  | none =>
      rw [lists, List.getElem?_map] at stands
      obtain ⟨group, present, same⟩ := Option.map_eq_some_iff.mp stands
      have member : (group, position) ∈ groups.zipIdx.reverse :=
        List.mem_reverse.mpr (List.mem_zipIdx_iff_getElem?.mpr present)
      have missing := List.find?_eq_none.mp (Option.map_eq_none_iff.mp found) _ member
      exact absurd (beq_iff_eq.mpr same) missing
  | some other => rw [ordered.position_unique (lastPosition?_stands found) stands]

/-! ### Following one head -/

/-- A head whose links are all free absorbs all of them. -/
theorem follow_eq (ordered : Ordered (lists groups)) {head : Nat} {group : SpanGroup Key}
    (last : Nat) (ends : shiftAll (last + 1) group.spans ∉ lists groups)
    (free : List Nat) (distinct : free.Nodup) (offset : Nat) (begun : offset ≤ last)
    (links : ∀ later, offset < later → later ≤ last → ∃ position ∈ free, position ≠ head ∧
      (lists groups)[position]? = some (shiftAll later group.spans)) :
    (follow groups head group free offset).2 = last ∧
      (follow groups head group free offset).1.Nodup ∧
      ∀ position, position ∈ (follow groups head group free offset).1 ↔ position ∈ free ∧
        ∀ later, offset < later → later ≤ last →
          (lists groups)[position]? ≠ some (shiftAll later group.spans) := by
  obtain ⟨left, rfl⟩ := Nat.exists_eq_add_of_le begun
  induction left generalizing free offset with
  | zero =>
      have unfolded : follow groups head group free offset = (free, offset) := by
        have stop : lastPosition? groups (group.shifted (offset + 1)) = none :=
          lastPosition?_eq_none ends
        rw [follow, stop]
      rw [unfolded]
      refine ⟨rfl, distinct, fun position => ⟨fun member => ⟨member, ?_⟩, fun both => both.1⟩⟩
      intro later behind within
      omega
  | succ left ih =>
      obtain ⟨next, nextFree, other, stands⟩ := links (offset + 1) (by omega) (by omega)
      have unfolded : follow groups head group free offset =
          follow groups head group (free.erase next) (offset + 1) := by
        have found : lastPosition? groups (group.shifted (offset + 1)) = some next :=
          lastPosition?_eq_some ordered stands
        rw [follow, found]
        simp only [if_pos (And.intro other nextFree)]
      -- The links further on stand elsewhere, so they stay free when this one goes.
      have apart : ∀ later, offset + 1 < later →
          (lists groups)[next]? ≠ some (shiftAll later group.spans) := by
        intro later behind again
        have same := Option.some.inj (stands.symm.trans again)
        obtain ⟨gap, rfl⟩ := Nat.exists_eq_add_of_lt behind
        rw [Nat.add_assoc (offset + 1) gap 1, ← Span.shiftAll_shiftAll (offset + 1)] at same
        have leads := Span.leads_shiftAll (ordered.inhabited_at stands) (Nat.succ_pos gap)
        rw [← same] at leads
        exact Span.Leads.irrefl _ leads
      have shape : offset + (left + 1) = offset + 1 + left := by omega
      rw [shape] at ends links ⊢
      obtain ⟨reached, kept, members⟩ := ih (free.erase next) (distinct.erase next)
        (offset + 1) ends (Nat.le_add_right _ _) (by
          intro later behind within
          obtain ⟨position, member, different, found⟩ := links later (by omega) within
          refine ⟨position, ?_, different, found⟩
          apply distinct.mem_erase_iff.mpr
          refine ⟨?_, member⟩
          rintro rfl
          exact apart later behind found)
      rw [unfolded]
      refine ⟨reached, kept, fun position => ?_⟩
      rw [members, distinct.mem_erase_iff]
      constructor
      · rintro ⟨⟨different, member⟩, clear⟩
        refine ⟨member, fun later behind within found => ?_⟩
        rcases Nat.lt_or_eq_of_le (Nat.succ_le_of_lt behind) with further | first
        · exact clear later further within found
        · rw [← first] at found
          exact different (ordered.position_unique found stands)
      · rintro ⟨member, clear⟩
        refine ⟨⟨?_, member⟩, fun later behind => clear later (by omega)⟩
        rintro rfl
        exact clear (offset + 1) (by omega) (by omega) stands

/-! ### Following each head in turn -/

/-- A group has been absorbed when its turn comes exactly if it continues another one. -/
theorem absorbedBefore_self_iff (ordered : Ordered (lists groups)) {spans : List Span}
    {position : Nat} (stands : (lists groups)[position]? = some spans) :
    AbsorbedBefore groups position position ↔ continues (lists groups) spans = true := by
  constructor
  · rintro ⟨head, start, _, atStart, offset, positive, within, link⟩
    cases repeats : continues (lists groups) spans with
    | true => rfl
    | false =>
        have atPosition : HeadAt groups spans position := ⟨stands, repeats⟩
        have none := atStart.head.offset_eq_zero atPosition.head within
          (Option.some.inj (link.symm.trans stands))
        omega
  · intro repeats
    obtain ⟨head, offset, heads, within, rfl⟩ :=
      ordered.exists_head (List.mem_of_getElem? stands)
    obtain ⟨start, atStart⟩ := List.mem_iff_getElem?.mp heads.member
    have moved : 0 < offset := by
      rcases Nat.eq_zero_or_pos offset with rfl | positive
      · rw [Span.shiftAll_zero, heads.starts] at repeats
        cases repeats
      · exact positive
    have before := ordered.lt_of_leads atStart stands
      (Span.leads_shiftAll (ordered.inhabited_at atStart) moved)
    exact ⟨head, start, before, ⟨atStart, heads.starts⟩, offset, moved, within, stands⟩

/-- When a head has had its turn, its links are absorbed as well. -/
theorem absorbedBefore_succ_iff {limit position : Nat} {head : List Span}
    (atLimit : HeadAt groups head limit) :
    AbsorbedBefore groups (limit + 1) position ↔ AbsorbedBefore groups limit position ∨
      ∃ offset, 0 < offset ∧ offset ≤ reach (lists groups) head ∧
        (lists groups)[position]? = some (shiftAll offset head) := by
  constructor
  · rintro ⟨other, start, before, atStart, links⟩
    rcases Nat.lt_or_eq_of_le (Nat.le_of_lt_succ before) with earlier | same
    · exact Or.inl ⟨other, start, earlier, atStart, links⟩
    · subst same
      obtain rfl := Option.some.inj (atStart.stands.symm.trans atLimit.stands)
      exact Or.inr links
  · rintro (⟨other, start, before, atStart, links⟩ | links)
    · exact ⟨other, start, Nat.lt_succ_of_lt before, atStart, links⟩
    · exact ⟨head, limit, Nat.lt_succ_self _, atLimit, links⟩

theorem absorbedBefore_succ_of_continues {limit position : Nat} {spans : List Span}
    (stands : (lists groups)[limit]? = some spans)
    (repeats : continues (lists groups) spans = true) :
    AbsorbedBefore groups (limit + 1) position ↔ AbsorbedBefore groups limit position := by
  constructor
  · rintro ⟨other, start, before, atStart, links⟩
    rcases Nat.lt_or_eq_of_le (Nat.le_of_lt_succ before) with earlier | same
    · exact ⟨other, start, earlier, atStart, links⟩
    · subst same
      obtain rfl := Option.some.inj (atStart.stands.symm.trans stands)
      rw [atStart.starts] at repeats
      cases repeats
  · rintro ⟨other, start, before, atStart, links⟩
    exact ⟨other, start, Nat.lt_succ_of_lt before, atStart, links⟩

/-- The free positions before the turn of a position. -/
structure FreeBefore (groups : List (SpanGroup Key)) (limit : Nat) (free : List Nat) : Prop where
  distinct : free.Nodup
  members : ∀ position, position ∈ free ↔
    position < groups.length ∧ ¬AbsorbedBefore groups limit position

/-- Before the turn of a head none of its links is absorbed. -/
theorem HeadAt.not_absorbedBefore_link (ordered : Ordered (lists groups)) {limit position offset : Nat}
    {head : List Span} (atLimit : HeadAt groups head limit)
    (within : offset ≤ reach (lists groups) head)
    (link : (lists groups)[position]? = some (shiftAll offset head)) :
    ¬AbsorbedBefore groups limit position := by
  rintro ⟨other, start, before, atStart, back, _, inside, again⟩
  have same := (atStart.head.unique atLimit.head inside within
    (Option.some.inj (again.symm.trans link))).1
  subst same
  have here := ordered.position_unique atStart.stands atLimit.stands
  omega

/-- The turn of a head: it finds all of its links free and absorbs them. -/
theorem follow_head (ordered : Ordered (lists groups)) {limit : Nat} {head : SpanGroup Key}
    {free : List Nat} (atLimit : HeadAt groups head.spans limit)
    (state : FreeBefore groups limit free) :
    (follow groups limit head free 0).2 = reach (lists groups) head.spans ∧
      FreeBefore groups (limit + 1) (follow groups limit head free 0).1 := by
  obtain ⟨reached, kept, members⟩ := follow_eq ordered (reach (lists groups) head.spans)
    (ordered.not_mem_reach_succ atLimit.head.member) free state.distinct 0 (Nat.zero_le _) (by
      intro offset positive within
      obtain ⟨position, link⟩ := List.mem_iff_getElem?.mp (atLimit.head.mem_link within)
      refine ⟨position, (state.members position).mpr ⟨lt_length_of_stands link,
        atLimit.not_absorbedBefore_link ordered within link⟩, ?_, link⟩
      rintro rfl
      have none := atLimit.head.offset_eq_zero atLimit.head within
        (Option.some.inj (link.symm.trans atLimit.stands))
      omega)
  refine ⟨reached, kept, fun position => ?_⟩
  rw [members, state.members, absorbedBefore_succ_iff atLimit]
  constructor
  · rintro ⟨⟨bound, free⟩, clear⟩
    refine ⟨bound, ?_⟩
    rintro (absorbed | ⟨offset, positive, within, link⟩)
    · exact free absorbed
    · exact clear offset positive within link
  · rintro ⟨bound, free⟩
    exact ⟨⟨bound, fun absorbed => free (Or.inl absorbed)⟩,
      fun offset positive within link => free (Or.inr ⟨offset, positive, within, link⟩)⟩

/-- After some turns in a row the free positions are those that no head has absorbed so far, and each
head that had its turn has grown by the reach of its chain. -/
theorem followAll_eq (ordered : Ordered (lists groups)) (turns : List (SpanGroup Key))
    (limit : Nat) (next : turns <+: groups.drop limit) (free : List Nat)
    (state : FreeBefore groups limit free) :
    FreeBefore groups (limit + turns.length) (followAll groups free (turns.zipIdx limit)).1 ∧
      ∀ position spans, limit ≤ position → position < limit + turns.length →
        HeadAt groups spans position →
          (followAll groups free (turns.zipIdx limit)).2.lookup position =
            some (reach (lists groups) spans) := by
  induction turns generalizing limit free with
  | nil =>
      refine ⟨state, fun position spans behind before => ?_⟩
      exact absurd before (Nat.not_lt_of_le behind)
  | cons group later ih =>
      obtain ⟨behind, whole⟩ := next
      have found : groups[limit]? = some group := by
        rw [← List.head?_drop, ← whole]
        rfl
      have stands := lists_getElem? found
      have below : later <+: groups.drop (limit + 1) := by
        refine ⟨behind, ?_⟩
        rw [← List.tail_drop, ← whole]
        rfl
      have turn : limit ∈ free ↔ continues (lists groups) group.spans = false := by
        rw [state.members, absorbedBefore_self_iff ordered stands, Bool.not_eq_true]
        exact and_iff_right (lt_length_of_stands stands)
      have count : limit + (group :: later).length = limit + 1 + later.length := by
        rw [List.length_cons]
        omega
      rw [List.zipIdx_cons, count]
      cases repeats : continues (lists groups) group.spans with
      | true =>
          have skipped : limit ∉ free := by
            rw [turn, repeats]
            exact Bool.noConfusion
          have next : FreeBefore groups (limit + 1) free := by
            refine ⟨state.distinct, fun position => ?_⟩
            rw [absorbedBefore_succ_of_continues stands repeats]
            exact state.members position
          obtain ⟨final, growths⟩ := ih (limit + 1) below free next
          rw [followAll, if_neg skipped]
          refine ⟨final, fun position spans behind before atPosition => ?_⟩
          rcases Nat.lt_or_eq_of_le behind with further | here
          · exact growths position spans further before atPosition
          · subst here
            obtain rfl := Option.some.inj (atPosition.stands.symm.trans stands)
            rw [atPosition.starts] at repeats
            cases repeats
      | false =>
          obtain ⟨reached, next⟩ := follow_head ordered ⟨stands, repeats⟩ state
          obtain ⟨final, growths⟩ := ih (limit + 1) below _ next
          rw [followAll, if_pos (turn.mpr repeats)]
          refine ⟨final, fun position spans behind before atPosition => ?_⟩
          rcases Nat.lt_or_eq_of_le behind with further | here
          · have different : (position == limit) = false := beq_eq_false_iff_ne.mpr (by omega)
            change List.lookup position ((limit, _) :: _) = _
            rw [List.lookup_cons, different]
            exact growths position spans further before atPosition
          · subst here
            obtain rfl := Option.some.inj (atPosition.stands.symm.trans stands)
            change List.lookup limit ((limit, _) :: _) = _
            rw [List.lookup_cons_self, reached]

theorem freeBefore_zero (groups : List (SpanGroup Key)) :
    FreeBefore groups 0 (List.range groups.length) := by
  refine ⟨List.nodup_range, fun position => ?_⟩
  rw [List.mem_range]
  refine ⟨fun bound => ⟨bound, ?_⟩, fun both => both.1⟩
  rintro ⟨head, start, impossible, _⟩
  exact Nat.not_lt_zero _ impossible

/-- In the end the positions of the heads are free, and each head has grown by the reach of its
chain. -/
theorem followAll_range (ordered : Ordered (lists groups)) {group : SpanGroup Key} {position : Nat}
    (found : groups[position]? = some group) :
    (position ∈ (followAll groups (List.range groups.length) groups.zipIdx).1 ↔
        continues (lists groups) group.spans = false) ∧
      (continues (lists groups) group.spans = false →
        (followAll groups (List.range groups.length) groups.zipIdx).2.lookup position =
          some (reach (lists groups) group.spans)) := by
  obtain ⟨final, growths⟩ := followAll_eq ordered groups 0 (List.prefix_refl groups) _
    (freeBefore_zero groups)
  rw [Nat.zero_add] at final growths
  have stands := lists_getElem? found
  have bound := lt_length_of_stands stands
  refine ⟨?_, fun starts => growths position _ (Nat.zero_le _) bound ⟨stands, starts⟩⟩
  rw [final.members, and_iff_right bound, ← Bool.not_eq_true,
    ← absorbedBefore_self_iff ordered stands, not_iff_not]
  constructor
  · rintro ⟨head, start, before, atStart, offset, positive, within, link⟩
    refine ⟨head, start, ?_, atStart, offset, positive, within, link⟩
    rcases Nat.lt_or_ge start position with earlier | late
    · exact earlier
    · have leads := Span.leads_shiftAll (ordered.inhabited_at atStart.stands) positive
      exact absurd (ordered.lt_of_leads atStart.stands link leads) (Nat.not_lt_of_le late)
  · rintro ⟨head, start, before, links⟩
    exact ⟨head, start, Nat.lt_trans before bound, links⟩

/-! ### What the fold leaves -/

/-- A choice that depends on the items alone may forget their positions. -/
theorem filterMap_zipIdx {Item Kept : Type} {items : List Item} {pick : Item × Nat → Option Kept}
    (keep : Item → Bool) (result : Item → Kept)
    (each : ∀ item position, items[position]? = some item →
      pick (item, position) = if keep item then some (result item) else none) :
    items.zipIdx.filterMap pick = (items.filter keep).map result := by
  calc items.zipIdx.filterMap pick
      = items.zipIdx.filterMap fun entry =>
          if keep entry.1 then some (result entry.1) else none :=
        List.filterMap_congr fun entry member =>
          each entry.1 entry.2 (List.mem_zipIdx_iff_getElem?.mp member)
    _ = (items.zipIdx.map Prod.fst).filterMap fun item =>
          if keep item then some (result item) else none := by
        rw [List.filterMap_map]
        rfl
    _ = (items.filter keep).map result := by
        rw [List.zipIdx_map_fst, ← List.filterMap_eq_map, List.filterMap_filter]
        rfl

/-- Items that are chosen with their marks keep the order of their marks. -/
theorem map_filterMap_zipIdx_sublist {Item Kept Mark : Type} {pick : Item × Nat → Option Kept}
    {mark : Kept → Mark} {own : Item → Mark}
    (keeps : ∀ item position kept, pick (item, position) = some kept → mark kept = own item)
    (items : List Item) (first : Nat) :
    (((items.zipIdx first).filterMap pick).map mark).Sublist (items.map own) := by
  induction items generalizing first with
  | nil => exact List.Sublist.slnil
  | cons item later ih =>
      rw [List.zipIdx_cons]
      cases picked : pick (item, first) with
      | none =>
          rw [List.filterMap_cons_none picked]
          exact (ih (first + 1)).cons _
      | some kept =>
          rw [List.filterMap_cons_some picked, List.map_cons, List.map_cons,
            keeps item first kept picked]
          exact (ih (first + 1)).cons_cons _

/-- Whatever the order of the groups, the fold leaves some of them, and each may have grown. -/
theorem exists_of_mem_coalesce {folded : SpanGroup Key} (member : folded ∈ coalesce groups) :
    ∃ group ∈ groups, ∃ growth, folded = group.extend growth := by
  obtain ⟨⟨group, position⟩, listed, kept⟩ := List.mem_filterMap.mp member
  dsimp only at kept
  split at kept
  · exact ⟨group, List.fst_mem_of_mem_zipIdx listed, _, (Option.some.inj kept).symm⟩
  · cases kept

theorem keys_coalesce_sublist (groups : List (SpanGroup Key)) :
    ((coalesce groups).map (·.key)).Sublist (groups.map (·.key)) := by
  apply map_filterMap_zipIdx_sublist
  intro group position folded kept
  dsimp only at kept
  split at kept
  · obtain rfl := Option.some.inj kept
    rfl
  · cases kept

/-- Of groups in order the fold leaves the heads of the chains, each grown by the reach of its
chain. -/
theorem coalesce_eq_survivors (ordered : Ordered (lists groups)) :
    coalesce groups = survivors groups := by
  unfold coalesce survivors
  apply filterMap_zipIdx
  intro group position found
  obtain ⟨kept, growth⟩ := followAll_range ordered found
  cases starts : continues (lists groups) group.spans with
  | true =>
      have taken : position ∉ (followAll groups (List.range groups.length) groups.zipIdx).1 := by
        rw [kept, starts]
        exact Bool.noConfusion
      dsimp only
      rw [if_neg taken]
      rfl
  | false =>
      dsimp only
      rw [if_pos (kept.mpr starts), growth starts]
      rfl

/-- The spans that the fold leaves do not depend on the keys. -/
theorem lists_survivors (groups : List (SpanGroup Key)) :
    lists (survivors groups) = Span.grownHeads (lists groups) := by
  unfold survivors Span.grownHeads
  rw [lists, List.map_map]
  conv => rhs; rw [lists, List.filter_map, List.map_map]
  rfl

theorem lists_coalesce (ordered : Ordered (lists groups)) :
    lists (coalesce groups) = Span.grownHeads (lists groups) := by
  rw [coalesce_eq_survivors ordered, lists_survivors]

end RepeatScan.SpanGroup
