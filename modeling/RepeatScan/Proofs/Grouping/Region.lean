import RepeatScan.Proofs.Grouping.Places

set_option autoImplicit false

/-! A region that several sources share. Each window of the region makes one class, with a place in
every copy, and what lies elsewhere makes none. The classes are a single chain, and its head grows into
the region itself. -/

namespace RepeatScan

namespace Place

def shift (offset : Nat) (place : Place) : Place :=
  ⟨place.source, place.start + offset⟩

/-- The tokens of a region stand at a place. -/
def Carries (region : List Token) (place : Place) : Prop :=
  ∃ before after, place.source.tokens.tokens = before ++ region ++ after ∧
    before.length = place.start

/-- The window at a place lies inside the region that another place carries. -/
def Within (size : Nat) (region : List Token) (copy place : Place) : Prop :=
  place.source = copy.source ∧ copy.start ≤ place.start ∧
    place.start + size ≤ copy.start + region.length

theorem carries_iff {region : List Token} {place : Place} :
    place.Carries region ↔ place.start ≤ place.source.tokens.tokens.length ∧
      (place.source.tokens.tokens.drop place.start).take region.length = region := by
  constructor
  · rintro ⟨before, after, same, start⟩
    rw [same, ← start, List.append_assoc, List.length_append, List.drop_left, List.take_left]
    exact ⟨Nat.le_add_right _ _, rfl⟩
  · rintro ⟨bound, same⟩
    refine ⟨place.source.tokens.tokens.take place.start,
      (place.source.tokens.tokens.drop place.start).drop region.length, ?_, ?_⟩
    · conv => rhs; lhs; rhs; rw [← same]
      rw [List.append_assoc, List.take_append_drop, List.take_append_drop]
    · exact List.length_take_of_le bound

instance decidableCarries (region : List Token) (place : Place) :
    Decidable (place.Carries region) :=
  decidable_of_iff _ carries_iff.symm

instance decidableWithin (size : Nat) (region : List Token) (copy place : Place) :
    Decidable (Within size region copy place) :=
  inferInstanceAs (Decidable (_ ∧ _ ∧ _))

end Place

/-- Some sources share a region whose windows all differ, each has one copy of it, and no window outside
the copies repeats. -/
structure SharedRegion (size : Nat) (region : List Token) (sources : List ScannedSource)
    (copies : List Place) : Prop where
  long : size ≤ region.length
  varied : ∀ first second, first + size ≤ region.length → second + size ≤ region.length →
    (region.drop first).take size = (region.drop second).take size → first = second
  spread : (copies.map (·.source)).Sublist sources
  carried : ∀ copy ∈ copies, copy.Carries region
  elsewhere : ∀ place ∈ Place.all size sources,
    (∀ copy ∈ copies, ¬Place.Within size region copy place) →
      ∀ other ∈ Place.all size sources, other.tokens size = place.tokens size → other = place

namespace Place

variable {size offset : Nat} {region : List Token} {sources : List ScannedSource}
  {copies : List Place}

theorem within_iff {copy place : Place} :
    Within size region copy place ↔
      ∃ offset, offset + size ≤ region.length ∧ copy.shift offset = place := by
  constructor
  · rintro ⟨same, after, before⟩
    refine ⟨place.start - copy.start, by omega, ?_⟩
    cases place
    simp only [shift, mk.injEq] at same after ⊢
    exact ⟨same.symm, by omega⟩
  · rintro ⟨offset, fits, rfl⟩
    refine ⟨rfl, Nat.le_add_right _ _, ?_⟩
    change copy.start + offset + size ≤ _
    omega

theorem tokens_shift {copy : Place} (carries : copy.Carries region)
    (fits : offset + size ≤ region.length) :
    (copy.shift offset).tokens size = (region.drop offset).take size := by
  obtain ⟨before, after, same, start⟩ := carries
  change (copy.source.tokens.tokens.take (copy.start + offset + size)).drop
    (copy.start + offset) = _
  rw [List.drop_take, Nat.add_sub_cancel_left, same, ← start, List.append_assoc, List.drop_append,
    List.drop_eq_nil_of_le (Nat.le_add_right before.length offset), List.nil_append,
    Nat.add_sub_cancel_left, List.drop_append_of_le_length (by omega),
    List.take_append_of_le_length (by rw [List.length_drop]; omega)]

theorem shift_mem_all (positive : 0 < size) {copy : Place} (known : copy.source ∈ sources)
    (carries : copy.Carries region) (fits : offset + size ≤ region.length) :
    copy.shift offset ∈ all size sources := by
  obtain ⟨before, after, same, start⟩ := carries
  have length := congrArg List.length same
  rw [TokenStream.length_tokens, List.length_append, List.length_append, start] at length
  apply (mem_all_of_pos positive).mpr
  refine ⟨known, ?_⟩
  change copy.start + offset + size ≤ copy.source.tokens.length
  omega

end Place

namespace SharedRegion

open Place (alike all shift tokens_shift shift_mem_all within_iff)

variable {size offset : Nat} {region : List Token} {sources : List ScannedSource}
  {copies : List Place}

section Classes

variable (shared : SharedRegion size region sources copies)

include shared

theorem source_mem {copy : Place} (member : copy ∈ copies) : copy.source ∈ sources :=
  shared.spread.subset (List.mem_map.mpr ⟨copy, member, rfl⟩)

theorem pairwise_copies (increasing : (sources.map (·.index)).Pairwise (· < ·)) :
    copies.Pairwise fun left right => left.source.index < right.source.index := by
  have sublist := shared.spread.map (·.index)
  rw [List.map_map] at sublist
  exact List.pairwise_map.mp (List.Pairwise.sublist sublist increasing)

theorem pairwise_shift (increasing : (sources.map (·.index)).Pairwise (· < ·)) (offset : Nat) :
    (copies.map (shift offset)).Pairwise fun left right =>
      (left.window size).Before (right.window size) := by
  apply List.pairwise_map.mpr
  refine (shared.pairwise_copies increasing).imp ?_
  intro left right before
  constructor
  · simp [Window.precedes, Place.window, shift, before]
  · intro same
    exact Nat.ne_of_lt before (congrArg Window.source same)

/-- A window lies in a copy, at some offset, or it is the only one of its content. -/
theorem copy_or_single {place : Place} (listed : place ∈ all size sources) :
    (∃ copy ∈ copies, ∃ offset, offset + size ≤ region.length ∧ copy.shift offset = place) ∨
      ∀ other ∈ all size sources, other.tokens size = place.tokens size → other = place := by
  by_cases inside : ∃ copy ∈ copies, Place.Within size region copy place
  · obtain ⟨copy, member, within⟩ := inside
    exact Or.inl ⟨copy, member, within_iff.mp within⟩
  · apply Or.inr
    apply shared.elsewhere place listed
    intro copy member within
    exact inside ⟨copy, member, within⟩

/-- A window of the region is found in the copies, at its own offset, and nowhere else. -/
theorem exists_copy_of_tokens (positive : 0 < size) (inhabited : copies ≠ []) {place : Place}
    (listed : place ∈ all size sources) (fits : offset + size ≤ region.length)
    (found : place.tokens size = (region.drop offset).take size) :
    ∃ copy ∈ copies, copy.shift offset = place := by
  rcases shared.copy_or_single listed with ⟨copy, member, position, bound, rfl⟩ | single
  · rw [tokens_shift (shared.carried copy member) bound] at found
    obtain rfl := shared.varied position offset bound fits found
    exact ⟨copy, member, rfl⟩
  · obtain ⟨copy, member⟩ := List.exists_mem_of_ne_nil copies inhabited
    have carried := shared.carried copy member
    refine ⟨copy, member, single _ ?_ ?_⟩
    · exact shift_mem_all positive (shared.source_mem member) carried fits
    · rw [tokens_shift carried fits, found]

theorem alike_shift (positive : 0 < size)
    (increasing : (sources.map (·.index)).Pairwise (· < ·)) {copy : Place} (member : copy ∈ copies)
    (fits : offset + size ≤ region.length) :
    alike size sources (copy.shift offset) = copies.map (shift offset) := by
  apply Window.eq_of_mem_iff (Place.window size)
    ((Place.pairwise_all increasing).filter _) (shared.pairwise_shift increasing offset)
  intro other
  change other ∈ alike size sources (copy.shift offset) ↔ _
  rw [Place.mem_alike, tokens_shift (shared.carried copy member) fits, List.mem_map]
  constructor
  · intro found
    exact shared.exists_copy_of_tokens positive (List.ne_nil_of_mem member) found.1 fits found.2
  · rintro ⟨home, present, rfl⟩
    exact ⟨shift_mem_all positive (shared.source_mem present) (shared.carried home present) fits,
      tokens_shift (shared.carried home present) fits⟩

/-- The region stands in the copies and nowhere else. -/
theorem mem_copies_of_carries (positive : 0 < size) (inhabited : copies ≠ []) {place : Place}
    (known : place.source ∈ sources) (carries : place.Carries region) : place ∈ copies := by
  have long : 0 + size ≤ region.length := by
    rw [Nat.zero_add]
    exact shared.long
  have listed : place.shift 0 ∈ all size sources := shift_mem_all positive known carries long
  obtain ⟨copy, member, same⟩ :=
    shared.exists_copy_of_tokens positive inhabited listed long (tokens_shift carries long)
  cases copy
  cases place
  simp only [shift, Nat.add_zero] at same
  rw [← same]
  exact member

end Classes

/-! ### The chain of the windows of a region -/

def base (size : Nat) (copies : List Place) : List Span :=
  copies.map fun copy => Span.ofWindow (copy.window size)

variable {options : GroupingOptions}

section Chain

variable (shared : SharedRegion size region sources copies) (positive : 0 < size)
  (increasing : (sources.map (·.index)).Pairwise (· < ·))

include shared increasing

theorem merge_shift (offset : Nat) :
    Span.merge ((copies.map (shift offset)).map (Place.window size)) =
      Span.shiftAll offset (base size copies) := by
  have apart : ((copies.map (shift offset)).map (Place.window size)).Pairwise
      fun left right => left.source = right.source → left.stop < right.start := by
    apply List.pairwise_map.mpr
    apply List.pairwise_map.mpr
    refine (shared.pairwise_copies increasing).imp ?_
    intro left right before same
    exact absurd same (Nat.ne_of_lt before)
  rw [Span.merge_eq_separate apart, Span.separate, Span.shiftAll, base, List.map_map, List.map_map,
    List.map_map]
  apply List.map_congr_left
  intro copy _
  simp only [Function.comp_apply, Span.ofWindow, Span.shift, Place.window, shift, Window.stop,
    Nat.add_right_comm]

include positive

/-- The groups of a shared region are its first window, moved right up to its last one. -/
theorem chainOf_lists (enumerated : Grouping.Enumerated size sources)
    (verified : options.verifyContent = true) (merged : options.mergeOverlaps = true)
    (several : 2 ≤ options.minOccurrences) (enough : options.minOccurrences ≤ copies.length) :
    Span.ChainOf (SpanGroup.lists (Grouping.orderedGroups sources options
      (Grouping.tally size sources).buckets)) (base size copies) (region.length - size) := by
  intro spans
  have long := shared.long
  have threshold : options.threshold = options.minOccurrences := by
    unfold GroupingOptions.threshold
    omega
  rw [Place.mem_lists_orderedGroups enumerated increasing verified, threshold,
    Grouping.spans_of_merge merged]
  constructor
  · rintro ⟨place, listed, rfl, kept⟩
    rcases shared.copy_or_single listed with ⟨copy, member, offset, fits, rfl⟩ | single
    · refine ⟨offset, by omega, ?_⟩
      rw [shared.alike_shift positive increasing member fits, shared.merge_shift increasing]
    · rw [Place.alike_of_single increasing listed single] at kept
      have alone : (Span.merge ([place].map (Place.window size))).length ≤ 1 :=
        Span.length_merge_le _
      omega
  · rintro ⟨offset, within, rfl⟩
    have fits : offset + size ≤ region.length := by omega
    obtain ⟨copy, member⟩ : ∃ copy, copy ∈ copies := by
      apply List.exists_mem_of_length_pos
      omega
    refine ⟨copy.shift offset, shift_mem_all positive (shared.source_mem member)
      (shared.carried copy member) fits, ?_, ?_⟩
    · rw [shared.alike_shift positive increasing member fits, shared.merge_shift increasing]
    · rw [Span.shiftAll, base, List.length_map, List.length_map]
      exact enough

/-- What is reported of a shared region: the region itself, in every copy. -/
theorem occurrences_reportOf (enumerated : Grouping.Enumerated size sources)
    (verified : options.verifyContent = true) (merged : options.mergeOverlaps = true)
    (several : 2 ≤ options.minOccurrences) (enough : options.minOccurrences ≤ copies.length) :
    (Grouping.reportOf size options sources).groups.map (·.occurrences) =
      [copies.map (Place.occurrence region.length)] := by
  have chain := shared.chainOf_lists positive increasing enumerated verified merged several enough
  have grown := Span.grownHeads_of_chain chain enumerated.lists_orderedGroups_ordered
  unfold Grouping.reportOf
  rw [Grouping.occurrences_report, enumerated.lists_spanGroups, if_pos merged, grown,
    List.map_singleton, Span.extendAll, base, List.map_map, List.filterMap_map,
    ← List.filterMap_eq_map]
  apply congrArg (fun occurrences => [occurrences])
  apply List.filterMap_congr
  intro copy member
  have known := Grouping.source?_eq_some enumerated.distinct (shared.source_mem member)
  have stop : copy.start + size + (region.length - size) = copy.start + region.length := by
    have long := shared.long
    omega
  simp only [Function.comp_apply, Grouping.occurrence?, Span.extend, Span.ofWindow, Place.window,
    Window.stop, known, Option.map_some, stop, Place.occurrence]

end Chain

end SharedRegion

end RepeatScan
