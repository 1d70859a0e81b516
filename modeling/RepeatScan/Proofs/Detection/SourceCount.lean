import Mathlib.Data.Finset.Card
import Mathlib.Data.List.SplitBy
import RepeatScan.Proofs.Detection.Reported

set_option autoImplicit false

/-! How many sources a group appears in. A group counts the stretches of occurrences in sources of one
identifier. That is at least the number of identifiers and at most the number of sources, and it is the
number of identifiers just when none comes back behind another one. -/

namespace RepeatScan

section Stretches

variable {Item : Type}

/-- Equal items stand together: none comes back behind another one. -/
def Together (items : List Item) : Prop :=
  ∀ first other, [first, other, first].Sublist items → other = first

theorem Together.sublist {items kept : List Item} (together : Together items)
    (sublist : kept.Sublist items) : Together kept :=
  fun first other returning => together first other (returning.trans sublist)

theorem triple_sublist {items : List Item} {first second third : Item} {early middle late : Nat}
    (before : early < middle) (behind : middle < late) (firstAt : items[early]? = some first)
    (secondAt : items[middle]? = some second) (thirdAt : items[late]? = some third) :
    [first, second, third].Sublist items := by
  obtain ⟨earlyBound, rfl⟩ := List.getElem?_eq_some_iff.mp firstAt
  obtain ⟨middleBound, rfl⟩ := List.getElem?_eq_some_iff.mp secondAt
  obtain ⟨lateBound, rfl⟩ := List.getElem?_eq_some_iff.mp thirdAt
  have increasing : [(⟨early, earlyBound⟩ : Fin items.length), ⟨middle, middleBound⟩,
      ⟨late, lateBound⟩].Pairwise (· < ·) := by
    simp [before, behind, Nat.lt_trans before behind]
  exact List.map_getElem_sublist increasing

theorem together_of_short {items : List Item} (short : items.length < 3) : Together items := by
  intro first other returning
  have size : 3 ≤ items.length := returning.length_le
  omega

theorem together_cons_self {first : Item} {later : List Item} :
    Together (first :: first :: later) ↔ Together (first :: later) := by
  constructor
  · intro together
    exact together.sublist (List.sublist_cons_self first _)
  · intro together item other returning
    cases returning with
    | cons _ inside => exact together item other inside
    | cons_cons _ behind =>
        cases behind with
        | cons _ inside => exact together first other (inside.cons_cons first)
        | cons_cons _ _ => rfl

theorem together_cons_of_ne {first next : Item} {later : List Item} (different : first ≠ next) :
    Together (first :: next :: later) ↔ first ∉ next :: later ∧ Together (next :: later) := by
  constructor
  · intro together
    refine ⟨?_, together.sublist (List.sublist_cons_self first _)⟩
    intro member
    rcases List.mem_cons.mp member with same | inside
    · exact different same
    · have returning : [first, next, first].Sublist (first :: next :: later) :=
        ((List.singleton_sublist.mpr inside).cons_cons next).cons_cons first
      exact different (together first next returning).symm
  · intro both item other returning
    cases returning with
    | cons _ inside => exact both.2 item other inside
    | cons_cons _ behind =>
        have again : first ∈ [other, first] := by simp
        exact absurd (behind.subset again) both.1

variable [BEq Item]

-- What was gathered before is only put in front of what comes.
private theorem length_splitByLoop (items : List Item) (current : Item) (gathered : List Item)
    (earlier : List (List Item)) :
    (List.splitBy.loop (· == ·) items current gathered earlier).length =
      (List.splitBy.loop (· == ·) items current [] []).length + earlier.length := by
  induction items generalizing current gathered earlier with
  | nil =>
      simp only [List.splitBy.loop, List.length_reverse, List.length_cons, List.length_nil]
      omega
  | cons next later ih =>
      simp only [List.splitBy.loop]
      cases current == next with
      | true =>
          dsimp only
          rw [ih next (current :: gathered) earlier, ih next [current] []]
          rfl
      | false =>
          dsimp only
          rw [ih next [] ((current :: gathered).reverse :: earlier), ih next [] [[current].reverse]]
          simp only [List.length_cons, List.length_nil]
          omega

/-- The number of stretches of equal neighbours. -/
def stretches (items : List Item) : Nat :=
  (items.splitBy (· == ·)).length

variable [LawfulBEq Item]

theorem stretches_cons_self (first : Item) (later : List Item) :
    stretches (first :: first :: later) = stretches (first :: later) := by
  simp only [stretches, List.splitBy, List.splitBy.loop, beq_self_eq_true]
  exact length_splitByLoop later first [first] []

theorem stretches_cons_of_ne {first next : Item} (different : first ≠ next) (later : List Item) :
    stretches (first :: next :: later) = stretches (next :: later) + 1 := by
  simp only [stretches, List.splitBy, List.splitBy.loop, beq_eq_false_iff_ne.mpr different]
  exact length_splitByLoop later next [] [[first]]

/-- There are at least as many stretches as items, and no more just when equal items stand together. -/
theorem stretches_spec [DecidableEq Item] (items : List Item) :
    items.toFinset.card ≤ stretches items ∧
      (stretches items = items.toFinset.card ↔ Together items) := by
  induction items with
  | nil => exact ⟨Nat.le_refl 0, fun _ => together_of_short (by simp), fun _ => rfl⟩
  | cons first behind ih =>
      cases behind with
      | nil => exact ⟨Nat.le_refl 1, fun _ => together_of_short (by simp), fun _ => rfl⟩
      | cons next later =>
          by_cases same : first = next
          · subst same
            rw [stretches_cons_self, together_cons_self, List.toFinset_cons,
              Finset.insert_eq_of_mem (List.mem_toFinset.mpr List.mem_cons_self)]
            exact ih
          · obtain ⟨least, alike⟩ := ih
            rw [stretches_cons_of_ne same, together_cons_of_ne same, List.toFinset_cons]
            by_cases returns : first ∈ next :: later
            · rw [Finset.insert_eq_of_mem (List.mem_toFinset.mpr returns)]
              refine ⟨by omega, fun short => by omega, fun both => absurd returns both.1⟩
            · have fresh : first ∉ (next :: later).toFinset := by
                rw [List.mem_toFinset]
                exact returns
              rw [Finset.card_insert_of_notMem fresh, Nat.add_right_cancel_iff, alike]
              exact ⟨Nat.add_le_add_right least 1, fun together => ⟨returns, together⟩,
                fun both => both.2⟩

theorem stretches_map_le {Kept : Type} [BEq Kept] [LawfulBEq Kept] (keep : Item → Kept)
    (items : List Item) : stretches (items.map keep) ≤ stretches items := by
  induction items with
  | nil => exact Nat.le_refl 0
  | cons first behind ih =>
      cases behind with
      | nil => exact Nat.le_refl 1
      | cons next later =>
          simp only [List.map_cons] at ih ⊢
          by_cases same : first = next
          · subst same
            rw [stretches_cons_self, stretches_cons_self]
            exact ih
          · rw [stretches_cons_of_ne same]
            by_cases joined : keep first = keep next
            · rw [joined, stretches_cons_self]
              exact Nat.le_succ_of_le ih
            · rw [stretches_cons_of_ne joined]
              exact Nat.succ_le_succ ih

end Stretches

theorem together_of_ordered {positions : List Nat} (ordered : positions.Pairwise (· ≤ ·)) :
    Together positions := by
  intro first other returning
  have three := List.Pairwise.sublist returning ordered
  simp only [List.pairwise_cons, List.mem_cons, List.not_mem_nil] at three
  have upward := three.1 other (Or.inl rfl)
  have downward := three.2.1 first (Or.inl rfl)
  omega

/-- The identifiers of the sources of the occurrences, one for each. -/
def Group.names (group : Group) : List Text :=
  group.occurrences.map (·.source)

theorem Group.sourceCount_eq (group : Group) : group.sourceCount = stretches group.names := rfl

namespace Detection

variable {surroundings : Surroundings} {settings : Settings} {mask : Mask} {sources : List Source}

/-- The positions of the sources of the occurrences, one for each. -/
def Located.positions (placed : Located) : List Nat :=
  placed.occurrences.map (·.1)

theorem positions_ordered {placed : Located}
    (member : placed ∈ located surroundings settings mask sources) :
    placed.positions.Pairwise (· ≤ ·) := by
  obtain ⟨group, present, rfl⟩ := List.mem_map.mp member
  have sequenced : Span.Sequenced (reported surroundings settings mask sources) := by
    rw [reported_eq]
    exact (enumerated_readable surroundings settings mask sources).sequenced_spanGroups
  have rising := sequenced.rising group.spans (List.mem_map.mpr ⟨group, present, rfl⟩)
  refine List.pairwise_map.mpr (List.pairwise_filterMap.mpr (rising.imp ?_))
  intro left right before first firstFound second secondFound
  obtain ⟨_, _, rfl⟩ := Option.map_eq_some_iff.mp firstFound
  obtain ⟨_, _, rfl⟩ := Option.map_eq_some_iff.mp secondFound
  unfold Span.Before at before
  dsimp only
  omega

theorem name_at_position {placed : Located}
    (member : placed ∈ located surroundings settings mask sources) {entry : Nat × Occurrence}
    (listed : entry ∈ placed.occurrences) :
    (sources.map (·.id))[entry.1]? = some entry.2.source := by
  rw [List.getElem?_map]
  exact (locates_conclusion surroundings settings mask sources).source placed member entry listed

/-- Where the input keeps equal identifiers together, every group does. -/
theorem together_names (gathered : Together (sources.map (·.id))) {placed : Located}
    (member : placed ∈ located surroundings settings mask sources) :
    Together placed.group.names := by
  intro name other returning
  unfold Group.names Located.group at returning
  rw [List.map_map] at returning
  obtain ⟨entries, inside, shape⟩ := List.sublist_map_iff.mp returning
  have count := congrArg List.length shape
  rw [List.length_map] at count
  obtain ⟨first, second, third, rfl⟩ := List.length_eq_three.mp count.symm
  have ordered := List.Pairwise.sublist (inside.map (·.1)) (positions_ordered member)
  have early : first.1 ≤ second.1 := (List.pairwise_cons.mp ordered).1 _ (by simp)
  have late : second.1 ≤ third.1 := (List.pairwise_cons.mp ordered.tail).1 _ (by simp)
  have firstAt := name_at_position member (inside.subset (by simp : first ∈ _))
  have secondAt := name_at_position member (inside.subset (by simp : second ∈ _))
  have thirdAt := name_at_position member (inside.subset (by simp : third ∈ _))
  simp only [List.map_cons, List.map_nil, Function.comp_apply, List.cons.injEq] at shape
  obtain ⟨rfl, rfl, again, _⟩ := shape
  rw [← again] at thirdAt
  -- Two occurrences in one source have one identifier; in three sources they return in the input.
  by_cases joined : first.1 = second.1
  · rw [joined, secondAt] at firstAt
    exact Option.some.inj firstAt
  · by_cases touching : second.1 = third.1
    · rw [touching, thirdAt] at secondAt
      exact (Option.some.inj secondAt).symm
    · exact gathered _ _ (triple_sublist (by omega) (by omega) firstAt secondAt thirdAt)

/-- What a group counts: every identifier once at least, every source once at most, and so the
identifiers themselves when they stand together in the group, as they do when the input keeps them
together. -/
structure CountsSources (sources : List Source) (placed : Located) : Prop where
  least : placed.group.names.toFinset.card ≤ placed.group.sourceCount
  most : placed.group.sourceCount ≤ placed.positions.toFinset.card
  same : placed.group.sourceCount = placed.group.names.toFinset.card ↔
    Together placed.group.names
  gathered : Together (sources.map (·.id)) →
    placed.group.sourceCount = placed.group.names.toFinset.card

theorem sourceCount_le_positions {placed : Located}
    (member : placed ∈ located surroundings settings mask sources) :
    placed.group.sourceCount ≤ placed.positions.toFinset.card := by
  have named : placed.group.names =
      placed.positions.map fun position => ((sources.map (·.id))[position]?).getD [] := by
    unfold Group.names Located.group Located.positions
    rw [List.map_map, List.map_map]
    apply List.map_congr_left
    intro entry listed
    rw [Function.comp_apply, Function.comp_apply, name_at_position member listed]
    rfl
  have apart := (stretches_spec placed.positions).2.mpr
    (together_of_ordered (positions_ordered member))
  rw [Group.sourceCount_eq, named, ← apart]
  exact stretches_map_le _ placed.positions

/-- A group of a run counts stretches of occurrences in sources of one identifier. These are as many as
there are identifiers, unless one of them comes back behind another one. -/
theorem sourceCount_run [Platform] (settings : CheckedSettings) :
    ∃ outcome, run surroundings settings sources false = .ok outcome ∧
      Locates sources (located surroundings settings settings.mask sources) outcome.report ∧
      ∀ placed ∈ located surroundings settings settings.mask sources,
        CountsSources sources placed := by
  refine ⟨_, runBy_of_valid tally settings, locates_conclusion _ _ _ _, ?_⟩
  intro placed member
  obtain ⟨least, same⟩ := stretches_spec placed.group.names
  exact {
    least := least
    most := sourceCount_le_positions member
    same := same
    gathered := fun gathered => same.mpr (together_names gathered member) }

/-- Sources with one and the same text. -/
def sameTexts (names : List Text) : List Source :=
  names.map fun name => ⟨name, .text ['1']⟩

theorem names_conclusion (surroundings : Surroundings) (settings : Settings) (mask : Mask)
    (sources : List Source) :
    (conclusion tally surroundings settings mask sources).report.groups.map (·.names) =
      (reported surroundings settings mask sources).map fun spans => spans.filterMap fun span =>
        (Grouping.occurrence? (readable surroundings settings mask sources) span).map
          (·.source) := by
  change (List.map _ (List.map _ _)) = List.map _ (List.map _ _)
  rw [List.map_map, List.map_map]
  apply List.map_congr_left
  intro group _
  exact List.map_filterMap

theorem sourceCount_run_gatheredTexts :
    ∃ outcome, run noFiles (singles true) (sameTexts [['a'], ['a'], ['b']]) false = .ok outcome ∧
      outcome.report.groups.map (·.names) = [[['a'], ['a'], ['b']]] ∧
      outcome.report.groups.map (·.sourceCount) = [2] := by
  obtain ⟨outcome, ran, places, counts⟩ :=
    @sourceCount_run noFiles (sameTexts [['a'], ['a'], ['b']]) _
      ⟨singles true, Mask.standard, rfl, rfl⟩
  have names : outcome.report.groups.map (·.names) = [[['a'], ['a'], ['b']]] := by
    obtain rfl := Except.ok.inj ((runBy_of_valid tally
      ⟨singles true, Mask.standard, rfl, rfl⟩).symm.trans ran)
    rw [names_conclusion, reported_eq_grownHeads rfl rfl]
    decide +kernel
  refine ⟨outcome, ran, names, ?_⟩
  rw [places.groups, List.map_map] at names ⊢
  obtain ⟨placed, single, own⟩ := List.map_eq_singleton_iff.mp names
  have gathered : Together [['a'], ['a'], ['b']] :=
    together_cons_self.mpr (together_of_short (by simp))
  have count := (counts placed (by simp [single])).gathered gathered
  rw [Function.comp_apply] at own
  rw [single, List.map_singleton, Function.comp_apply, count, own]
  rfl

/-- A group does not count identifiers: here one comes back behind another one and counts twice. -/
theorem sourceCount_returningTexts :
    (singles true).check = .ok (singles true) ∧
      ∃ outcome, run noFiles (singles true) (sameTexts [['a'], ['b'], ['a']]) false = .ok outcome ∧
        outcome.report.groups.map (·.sourceCount) = [3] ∧
        ¬∀ group ∈ outcome.report.groups,
          group.sourceCount = (group.occurrences.map (·.source)).toFinset.card := by
  have names : (conclusion tally noFiles (singles true) Mask.standard
      (sameTexts [['a'], ['b'], ['a']])).report.groups.map (·.names) = [[['a'], ['b'], ['a']]] := by
    rw [names_conclusion, reported_eq_grownHeads rfl rfl]
    decide +kernel
  obtain ⟨group, single, own⟩ := List.map_eq_singleton_iff.mp names
  have count : group.sourceCount = 3 := by
    rw [Group.sourceCount_eq, own]
    rfl
  refine ⟨rfl, conclusion tally noFiles (singles true) Mask.standard
    (sameTexts [['a'], ['b'], ['a']]),
    runBy_of_valid tally ⟨singles true, Mask.standard, rfl, rfl⟩, ?_, ?_⟩
  · rw [single, List.map_singleton, count]
  · intro every
    have wrong := every group (by simp [single])
    change group.sourceCount = group.names.toFinset.card at wrong
    rw [count, own] at wrong
    exact absurd wrong (by decide)

end Detection

end RepeatScan
