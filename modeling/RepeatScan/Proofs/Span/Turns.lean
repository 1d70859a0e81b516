import Mathlib.Data.Finset.Card
import RepeatScan.Proofs.Span.Fold

set_option autoImplicit false

/-! The turns of the fold. For groups in any order, with spans that come again or with none, the fold is
a loop that takes one step after the other: it passes a group that is gone, lets a head absorb one more
group, or goes on to the next head. Every turn of a head uses up a group, so there are at most as many
turns as groups, and a head is never absorbed in its own turn, so not all groups go. -/

namespace RepeatScan.SpanGroup

variable {Key : Type} {groups : List (SpanGroup Key)}

/-- How far the fold has come: the position whose turn it is and the offset that it has reached, the
positions absorbed so far, the last one first, and the growths of the heads that have had their turn. -/
structure Progress where
  position : Nat
  offset : Nat
  absorbed : List Nat
  growths : List (Nat × Nat)

namespace Progress

def start : Progress := ⟨0, 0, [], []⟩

def pass (progress : Progress) : Progress :=
  { progress with position := progress.position + 1, offset := 0 }

def absorb (progress : Progress) (other : Nat) : Progress :=
  { progress with offset := progress.offset + 1, absorbed := other :: progress.absorbed }

def leave (progress : Progress) : Progress :=
  ⟨progress.position + 1, 0, progress.absorbed,
    progress.growths ++ [(progress.position, progress.offset)]⟩

/-- The groups that are not absorbed, in order, each grown as far as it came in its turn. -/
def remains (groups : List (SpanGroup Key)) (progress : Progress) : List (SpanGroup Key) :=
  groups.zipIdx.filterMap fun (group, position) =>
    if position ∈ progress.absorbed then none
    else some (group.extend ((progress.growths.lookup position).getD 0))

end Progress

/-- What the head whose turn it is finds one token further, if it is another group that is not gone. -/
def finds? (groups : List (SpanGroup Key)) (group : SpanGroup Key) (progress : Progress) :
    Option Nat :=
  (lastPosition? groups (group.shifted (progress.offset + 1))).filter fun other =>
    other ≠ progress.position ∧ other ∉ progress.absorbed

/-- The next step of the fold, as long as there is a group at the position. -/
def step (groups : List (SpanGroup Key)) (progress : Progress) : Option Progress :=
  groups[progress.position]?.map fun group =>
    if progress.position ∈ progress.absorbed then progress.pass
    else match finds? groups group progress with
      | some other => progress.absorb other
      | none => progress.leave

/-- The progress of a run of the fold, with the number of turns so far in which a head went on. -/
inductive Run (groups : List (SpanGroup Key)) : Nat → Progress → Prop
  | start : Run groups 0 .start
  | turn {turns : Nat} {progress next : Progress} (before : Run groups turns progress)
      (moved : step groups progress = some next) (stays : next.position = progress.position) :
      Run groups (turns + 1) next
  | advance {turns : Nat} {progress next : Progress} (before : Run groups turns progress)
      (moved : step groups progress = some next) (leaves : next.position ≠ progress.position) :
      Run groups turns next

/-! ### What a step does -/

theorem finds?_eq_some {group : SpanGroup Key} {progress : Progress} {other : Nat}
    (found : finds? groups group progress = some other) :
    other < groups.length ∧ other ≠ progress.position ∧ other ∉ progress.absorbed := by
  obtain ⟨stands, fresh⟩ := Option.filter_eq_some_iff.mp found
  exact ⟨lt_length_of_stands (lastPosition?_stands stands), by simpa using fresh⟩

/-- A step passes a group that is gone, absorbs one that is not, or leaves the head. -/
theorem step_cases {progress next : Progress} (moved : step groups progress = some next) :
    progress.position < groups.length ∧
      (progress.position ∈ progress.absorbed ∧ next = progress.pass ∨
        progress.position ∉ progress.absorbed ∧
          ((∃ other < groups.length, other ≠ progress.position ∧ other ∉ progress.absorbed ∧
              next = progress.absorb other) ∨
            next = progress.leave)) := by
  obtain ⟨group, stands, same⟩ := Option.map_eq_some_iff.mp moved
  refine ⟨(List.getElem?_eq_some_iff.mp stands).1, ?_⟩
  by_cases gone : progress.position ∈ progress.absorbed
  · rw [if_pos gone] at same
    exact Or.inl ⟨gone, same.symm⟩
  · rw [if_neg gone] at same
    refine Or.inr ⟨gone, ?_⟩
    cases found : finds? groups group progress with
    | none =>
        rw [found] at same
        exact Or.inr same.symm
    | some other =>
        rw [found] at same
        obtain ⟨bound, different, fresh⟩ := finds?_eq_some found
        exact Or.inl ⟨other, bound, different, fresh, same.symm⟩

/-- A step that stays with its head absorbs a group that was not absorbed before. -/
theorem absorbs_of_stays {progress next : Progress} (moved : step groups progress = some next)
    (stays : next.position = progress.position) :
    ∃ other < groups.length, other ∉ progress.absorbed ∧
      next.absorbed = other :: progress.absorbed := by
  rcases (step_cases moved).2 with ⟨_, rfl⟩ | ⟨_, ⟨other, bound, _, fresh, rfl⟩ | rfl⟩
  · exact absurd stays (Nat.succ_ne_self _)
  · exact ⟨other, bound, fresh, rfl⟩
  · exact absurd stays (Nat.succ_ne_self _)

theorem absorbed_of_leaves {progress next : Progress} (moved : step groups progress = some next)
    (leaves : next.position ≠ progress.position) : next.absorbed = progress.absorbed := by
  rcases (step_cases moved).2 with ⟨_, rfl⟩ | ⟨_, ⟨other, _, _, _, rfl⟩ | rfl⟩
  · rfl
  · exact absurd rfl leaves
  · rfl

/-! ### Every run stops -/

/-- How much is left to do: positions that have not had their turn and groups that are not absorbed. -/
def left (groups : List (SpanGroup Key)) (progress : Progress) : Nat :=
  groups.length - progress.position +
    (Finset.range groups.length \ progress.absorbed.toFinset).card

theorem left_lt {progress next : Progress} (moved : step groups progress = some next) :
    left groups next < left groups progress := by
  obtain ⟨bound, kinds⟩ := step_cases moved
  rcases kinds with ⟨_, rfl⟩ | ⟨_, ⟨other, inside, _, fresh, rfl⟩ | rfl⟩
  · simp only [left, Progress.pass]
    omega
  · have member : other ∈ Finset.range groups.length \ progress.absorbed.toFinset := by
      simp [inside, fresh]
    have fewer := Finset.card_erase_lt_of_mem member
    simp only [left, Progress.absorb, List.toFinset_cons, Finset.sdiff_insert]
    omega
  · simp only [left, Progress.leave]
    omega

theorem wellFounded_step (groups : List (SpanGroup Key)) :
    WellFounded fun next progress => step groups progress = some next :=
  Subrelation.wf left_lt (InvImage.wf (left groups) Nat.lt_wfRel.wf)

/-! ### What every run keeps -/

/-- The groups absorbed so far are groups of the fold, each absorbed once, one for each turn. -/
structure Tallies (groups : List (SpanGroup Key)) (turns : Nat) (absorbed : List Nat) : Prop where
  distinct : absorbed.Nodup
  inside : ∀ other ∈ absorbed, other < groups.length
  count : absorbed.length = turns

theorem Run.tallies {turns : Nat} {progress : Progress} (run : Run groups turns progress) :
    Tallies groups turns progress.absorbed := by
  induction run with
  | start => exact ⟨List.nodup_nil, by simp [Progress.start], rfl⟩
  | @turn turns progress next before moved stays ih =>
      obtain ⟨other, bound, fresh, same⟩ := absorbs_of_stays moved stays
      rw [same]
      constructor
      case distinct => exact List.nodup_cons.mpr ⟨fresh, ih.distinct⟩
      case inside =>
        intro position member
        rcases List.mem_cons.mp member with rfl | listed
        · exact bound
        · exact ih.inside position listed
      case count => rw [List.length_cons, ih.count]
  | advance before moved leaves ih =>
      rw [absorbed_of_leaves moved leaves]
      exact ih

theorem Tallies.turns_le {turns : Nat} {absorbed : List Nat} (tallies : Tallies groups turns absorbed) :
    turns ≤ groups.length := by
  have within : absorbed ⊆ List.range groups.length :=
    fun other member => List.mem_range.mpr (tallies.inside other member)
  have bound := (tallies.distinct.subperm within).length_le
  rw [List.length_range, tallies.count] at bound
  exact bound

/-- Some group up to the position whose turn it is has not been absorbed. -/
def Spares (groups : List (SpanGroup Key)) (progress : Progress) : Prop :=
  ∃ spared ≤ progress.position, spared < groups.length ∧ spared ∉ progress.absorbed

-- The head that absorbs another group is not absorbed itself, whatever became of earlier ones.
theorem Spares.step {progress next : Progress} (spares : Spares groups progress)
    (moved : step groups progress = some next) : Spares groups next := by
  obtain ⟨spared, before, bound, fresh⟩ := spares
  obtain ⟨inside, kinds⟩ := step_cases moved
  rcases kinds with ⟨_, rfl⟩ | ⟨here, ⟨other, _, different, _, rfl⟩ | rfl⟩
  · exact ⟨spared, Nat.le_succ_of_le before, bound, fresh⟩
  · refine ⟨progress.position, Nat.le_refl _, inside, ?_⟩
    intro absorbed
    rcases List.mem_cons.mp absorbed with same | earlier
    · exact different same.symm
    · exact here earlier
  · exact ⟨spared, Nat.le_succ_of_le before, bound, fresh⟩

theorem Run.spares (inhabited : groups ≠ []) {turns : Nat} {progress : Progress}
    (run : Run groups turns progress) : Spares groups progress := by
  induction run with
  | start => exact ⟨0, Nat.le_refl 0, List.length_pos_of_ne_nil inhabited, by simp [Progress.start]⟩
  | turn before moved stays ih => exact ih.step moved
  | advance before moved leaves ih => exact ih.step moved

/-! ### The run of the fold -/

/-- The free positions are those that have not been absorbed. -/
structure Frees (groups : List (SpanGroup Key)) (free absorbed : List Nat) : Prop where
  distinct : free.Nodup
  members : ∀ position, position ∈ free ↔ position < groups.length ∧ position ∉ absorbed

theorem Frees.erase {free absorbed : List Nat} (frees : Frees groups free absorbed) (other : Nat) :
    Frees groups (free.erase other) (other :: absorbed) where
  distinct := frees.distinct.erase other
  members := by
    intro position
    rw [frees.distinct.mem_erase_iff, frees.members, List.mem_cons, not_or]
    exact and_left_comm

theorem step_leave {progress : Progress} {group : SpanGroup Key}
    (stands : groups[progress.position]? = some group)
    (here : progress.position ∉ progress.absorbed) (ends : finds? groups group progress = none) :
    step groups progress = some progress.leave := by
  rw [step, stands, Option.map_some, if_neg here, ends]

theorem step_absorb {progress : Progress} {group : SpanGroup Key} {other : Nat}
    (stands : groups[progress.position]? = some group)
    (here : progress.position ∉ progress.absorbed)
    (found : finds? groups group progress = some other) :
    step groups progress = some (progress.absorb other) := by
  rw [step, stands, Option.map_some, if_neg here, found]

theorem step_pass {progress : Progress} {group : SpanGroup Key}
    (stands : groups[progress.position]? = some group)
    (gone : progress.position ∈ progress.absorbed) :
    step groups progress = some progress.pass := by
  rw [step, stands, Option.map_some, if_pos gone]

/-- The turns of a head, from any offset on, are those of the fold. -/
theorem Run.exists_follow {turns head offset : Nat} {group : SpanGroup Key} {absorbed free : List Nat}
    {growths : List (Nat × Nat)} (run : Run groups turns ⟨head, offset, absorbed, growths⟩)
    (stands : groups[head]? = some group) (here : head ∉ absorbed)
    (frees : Frees groups free absorbed) :
    ∃ last gone, Run groups last ⟨head + 1, 0, gone,
        growths ++ [(head, (follow groups head group free offset).2)]⟩ ∧
      Frees groups (follow groups head group free offset).1 gone := by
  induction free, offset using follow.induct groups head group generalizing turns absorbed with
  | case1 free offset missing =>
      have ends : finds? groups group ⟨head, offset, absorbed, growths⟩ = none := by
        rw [finds?, missing]
        rfl
      rw [follow, missing]
      exact ⟨turns, absorbed, run.advance (step_leave stands here ends) (Nat.succ_ne_self _), frees⟩
  | case2 free offset other found fresh ih =>
      have listed := (frees.members other).mp fresh.2
      have finds : finds? groups group ⟨head, offset, absorbed, growths⟩ = some other := by
        rw [finds?, found]
        exact Option.filter_some_pos (by simpa using ⟨fresh.1, listed.2⟩)
      have still : head ∉ other :: absorbed := by
        intro member
        rcases List.mem_cons.mp member with same | earlier
        · exact fresh.1 same.symm
        · exact here earlier
      rw [follow, found]
      simp only [if_pos fresh]
      exact ih (run.turn (step_absorb stands here finds) rfl) still (frees.erase other)
  | case3 free offset other found taken =>
      have bound := lt_length_of_stands (lastPosition?_stands found)
      have ends : finds? groups group ⟨head, offset, absorbed, growths⟩ = none := by
        rw [finds?, found]
        apply Option.filter_some_neg
        rw [decide_eq_false_iff_not]
        intro fresh
        exact taken ⟨fresh.1, (frees.members other).mpr ⟨bound, fresh.2⟩⟩
      rw [follow, found]
      simp only [if_neg taken]
      exact ⟨turns, absorbed, run.advance (step_leave stands here ends) (Nat.succ_ne_self _), frees⟩

/-- The turns of all heads from a position on are those of the fold. -/
theorem Run.exists_followAll {turns limit : Nat} {later : List (SpanGroup Key)}
    {absorbed free : List Nat} {growths : List (Nat × Nat)} (behind : groups.drop limit = later)
    (count : limit + later.length = groups.length)
    (run : Run groups turns ⟨limit, 0, absorbed, growths⟩) (frees : Frees groups free absorbed) :
    ∃ last gone, Run groups last ⟨groups.length, 0, gone,
        growths ++ (followAll groups free (later.zipIdx limit)).2⟩ ∧
      Frees groups (followAll groups free (later.zipIdx limit)).1 gone := by
  induction later generalizing turns limit absorbed free growths with
  | nil =>
      obtain rfl : limit = groups.length := count
      rw [List.zipIdx_nil, followAll, List.append_nil]
      exact ⟨turns, absorbed, run, frees⟩
  | cons group later ih =>
      have stands : groups[limit]? = some group := by
        rw [← List.head?_drop, behind]
        rfl
      have below : groups.drop (limit + 1) = later := by
        rw [← List.tail_drop, behind]
        rfl
      have shorter : limit + 1 + later.length = groups.length := by
        rw [List.length_cons] at count
        omega
      rw [List.zipIdx_cons, followAll]
      by_cases here : limit ∈ free
      · have fresh := ((frees.members limit).mp here).2
        obtain ⟨middle, gone, reached, kept⟩ := run.exists_follow stands fresh frees
        obtain ⟨last, final, ended, rest⟩ := ih below shorter reached kept
        rw [List.append_assoc] at ended
        rw [if_pos here]
        exact ⟨last, final, ended, rest⟩
      · have bound := (List.getElem?_eq_some_iff.mp stands).1
        have gone : limit ∈ absorbed := by
          by_contra fresh
          exact here ((frees.members limit).mpr ⟨bound, fresh⟩)
        rw [if_neg here]
        exact ih below shorter (run.advance (step_pass stands gone) (Nat.succ_ne_self _)) frees

theorem frees_range (groups : List (SpanGroup Key)) :
    Frees groups (List.range groups.length) [] where
  distinct := List.nodup_range
  members := by
    intro position
    rw [List.mem_range]
    exact ⟨fun bound => ⟨bound, List.not_mem_nil⟩, fun both => both.1⟩

/-- The run of the fold comes to an end, and what is left then is what the fold leaves. -/
theorem exists_finished_run (groups : List (SpanGroup Key)) :
    ∃ turns last, Run groups turns last ∧ step groups last = none ∧
      coalesce groups = last.remains groups := by
  have begun : Run groups 0 ⟨0, 0, [], []⟩ := Run.start
  obtain ⟨turns, gone, run, frees⟩ :=
    begun.exists_followAll List.drop_zero (Nat.zero_add _) (frees_range groups)
  refine ⟨turns, _, run, ?_, ?_⟩
  · rw [step, List.getElem?_eq_none (Nat.le_refl _)]
    rfl
  · unfold coalesce Progress.remains
    apply List.filterMap_congr
    intro entry member
    have bound := (List.getElem?_eq_some_iff.mp (List.mem_zipIdx_iff_getElem?.mp member)).1
    dsimp only
    by_cases absorbed : entry.2 ∈ gone
    · have taken := mt (frees.members entry.2).mp fun both => both.2 absorbed
      rw [if_neg taken, if_pos absorbed]
    · rw [if_pos ((frees.members entry.2).mpr ⟨bound, absorbed⟩), if_neg absorbed]
      rfl

/-! ### What the fold keeps -/

/-- A group as it was, but for the stops of its spans, which have grown by one and the same amount. -/
structure Grown (before after : SpanGroup Key) : Prop where
  key : after.key = before.key
  spans : ∃ growth, List.Forall₂ (fun (old new : Span) => new.source = old.source ∧
    new.start = old.start ∧ new.stop = old.stop + growth) before.spans after.spans

theorem grown_extend (group : SpanGroup Key) (growth : Nat) : Grown group (group.extend growth) where
  key := rfl
  spans := by
    refine ⟨growth, ?_⟩
    change List.Forall₂ _ group.spans (group.spans.map _)
    rw [List.forall₂_map_right_iff, List.forall₂_same]
    exact fun _ _ => ⟨rfl, rfl, rfl⟩

/-- Whatever the order of the groups, the fold leaves some of them in their order, each grown. -/
theorem exists_kept (groups : List (SpanGroup Key)) :
    ∃ kept, kept.Sublist groups ∧ List.Forall₂ Grown kept (coalesce groups) := by
  let folded := followAll groups (List.range groups.length) groups.zipIdx
  let entries := groups.zipIdx.filter fun entry => entry.2 ∈ folded.1
  have same : coalesce groups =
      entries.map fun entry => entry.1.extend ((folded.2.lookup entry.2).getD 0) := by
    unfold coalesce
    rw [← List.filterMap_eq_map, List.filterMap_filter]
    apply List.filterMap_congr
    intro entry _
    simp only [decide_eq_true_eq]
    rfl
  refine ⟨entries.map (·.1), ?_, ?_⟩
  · have sublist : (entries.map (·.1)).Sublist (groups.zipIdx.map (·.1)) :=
      List.filter_sublist.map _
    rwa [List.zipIdx_map_fst] at sublist
  · rw [same, List.forall₂_map_left_iff, List.forall₂_map_right_iff, List.forall₂_same]
    exact fun entry _ => grown_extend entry.1 _

theorem remains_ne_nil {progress : Progress} (spares : Spares groups progress) :
    progress.remains groups ≠ [] := by
  obtain ⟨spared, _, bound, fresh⟩ := spares
  have listed : (groups[spared], spared) ∈ groups.zipIdx :=
    List.mem_zipIdx_iff_getElem?.mpr (List.getElem?_eq_getElem bound)
  apply List.ne_nil_of_mem
  exact List.mem_filterMap.mpr ⟨_, listed, if_neg fresh⟩

/-- How the fold comes to an end. From whatever progress on its steps stop; a turn that stays with its head
absorbs a group that was not absorbed before, so all turns of a run together are at most as many as the
groups; and the run that ends leaves what the fold leaves. -/
structure Stops (groups : List (SpanGroup Key)) : Prop where
  wellFounded : WellFounded fun next progress => step groups progress = some next
  absorbs : ∀ progress next, step groups progress = some next →
    next.position = progress.position → ∃ other < groups.length, other ∉ progress.absorbed ∧
      next.absorbed = other :: progress.absorbed
  bounded : ∀ turns progress, Run groups turns progress →
    progress.absorbed.Nodup ∧ progress.absorbed.length = turns ∧ turns ≤ groups.length
  finishes : ∃ turns last, Run groups turns last ∧ step groups last = none ∧
    coalesce groups = last.remains groups

/-- The fold stops on any groups whatever, and leaves some of them in their order, each as it was but for
the stops, which have grown by the same amount. Of any groups it leaves at least one. -/
theorem coalesce_stops (groups : List (SpanGroup Key)) :
    Stops groups ∧ (∃ kept, kept.Sublist groups ∧ List.Forall₂ Grown kept (coalesce groups)) ∧
      (groups ≠ [] → coalesce groups ≠ []) := by
  refine ⟨?_, exists_kept groups, ?_⟩
  · constructor
    case wellFounded => exact wellFounded_step groups
    case absorbs => exact fun _ _ moved stays => absorbs_of_stays moved stays
    case bounded =>
      intro turns progress run
      exact ⟨run.tallies.distinct, run.tallies.count, run.tallies.turns_le⟩
    case finishes => exact exists_finished_run groups
  · intro inhabited
    obtain ⟨turns, last, run, _, same⟩ := exists_finished_run groups
    rw [same]
    exact remains_ne_nil (run.spares inhabited)

/-- Groups out of order, two with the same spans and two without any. -/
def scattered : List (SpanGroup Char) :=
  [⟨'b', [⟨0, 1, 5⟩]⟩, ⟨'a', [⟨0, 0, 4⟩]⟩, ⟨'c', [⟨0, 2, 6⟩]⟩, ⟨'d', [⟨0, 2, 6⟩]⟩, ⟨'e', []⟩,
    ⟨'f', []⟩]

-- The second group absorbs the first one, which has absorbed another one before.
theorem run_scattered :
    Run scattered 2 ⟨1, 1, [0, 3], [(0, 1)]⟩ ∧
      Run scattered 3 ⟨6, 0, [5, 0, 3], [(0, 1), (1, 1), (2, 0), (4, 1)]⟩ := by
  have first : Run scattered 1 ⟨0, 1, [3], []⟩ := Run.start.turn rfl rfl
  have next : Run scattered 1 ⟨1, 0, [3], [(0, 1)]⟩ := first.advance rfl (by decide)
  have second : Run scattered 2 ⟨1, 1, [0, 3], [(0, 1)]⟩ := next.turn rfl rfl
  have third : Run scattered 2 ⟨2, 0, [0, 3], [(0, 1), (1, 1)]⟩ := second.advance rfl (by decide)
  have fourth : Run scattered 2 ⟨3, 0, [0, 3], [(0, 1), (1, 1), (2, 0)]⟩ :=
    third.advance rfl (by decide)
  have fifth : Run scattered 2 ⟨4, 0, [0, 3], [(0, 1), (1, 1), (2, 0)]⟩ :=
    fourth.advance rfl (by decide)
  have empty : Run scattered 3 ⟨4, 1, [5, 0, 3], [(0, 1), (1, 1), (2, 0)]⟩ := fifth.turn rfl rfl
  have sixth : Run scattered 3 ⟨5, 0, [5, 0, 3], [(0, 1), (1, 1), (2, 0), (4, 1)]⟩ :=
    empty.advance rfl (by decide)
  exact ⟨second, sixth.advance rfl (by decide)⟩

theorem coalesce_stops_scattered :
    (step scattered ⟨1, 0, [3], [(0, 1)]⟩ = some ⟨1, 1, [0, 3], [(0, 1)]⟩ ∧
        ∃ other < 6, other ∉ [3] ∧ [0, 3] = other :: [3]) ∧
      (Run scattered 3 ⟨6, 0, [5, 0, 3], [(0, 1), (1, 1), (2, 0), (4, 1)]⟩ ∧
        [5, 0, 3].Nodup ∧ 3 ≤ 6) ∧
      (∃ kept, kept.Sublist scattered ∧ List.Forall₂ Grown kept (coalesce scattered)) ∧
      coalesce scattered ≠ [] := by
  obtain ⟨stops, kept, inhabited⟩ := coalesce_stops scattered
  have turn : step scattered ⟨1, 0, [3], [(0, 1)]⟩ = some ⟨1, 1, [0, 3], [(0, 1)]⟩ := rfl
  have run := run_scattered.2
  obtain ⟨distinct, _, few⟩ := stops.bounded _ _ run
  exact ⟨⟨turn, stops.absorbs _ _ turn rfl⟩, ⟨run, distinct, few⟩, kept, inhabited (by decide)⟩

end RepeatScan.SpanGroup
