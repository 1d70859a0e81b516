import Mathlib.Data.List.Nodup
import RepeatScan.Bucket.Tally

set_option autoImplicit false

/-! What a tally holds. Its entries carry different fingerprints and none of them is empty, and
together they hold every window that was pushed, each as often as it was pushed. -/

namespace RepeatScan.Tally

/-- All windows of some entries, each with its fingerprint. -/
def contents (entries : List (Fingerprint × List Window)) : List (Fingerprint × Window) :=
  entries.flatMap fun entry => entry.2.map fun window => (entry.1, window)

/-- The windows of one fingerprint. -/
def under (fingerprint : Fingerprint) (items : List (Fingerprint × Window)) : List Window :=
  (items.filter fun item => item.1 = fingerprint).map (·.2)

/-- Entries as a tally builds them: one for each fingerprint, and none without a window. -/
structure Keyed (entries : List (Fingerprint × List Window)) : Prop where
  distinct : (entries.map (·.1)).Nodup
  inhabited : ∀ entry ∈ entries, entry.2 ≠ []

def Step.pushed? : Step → Option (Fingerprint × Window)
  | .push fingerprint window => some (fingerprint, window)
  | .announce _ => none

def Step.announced : Step → Nat
  | .push _ _ => 0
  | .announce windows => windows

def pushed (steps : List Step) : List (Fingerprint × Window) :=
  steps.filterMap Step.pushed?

def announced (steps : List Step) : Nat :=
  steps.foldr (fun step total => step.announced + total) 0

@[simp]
theorem contents_nil : contents [] = [] := rfl

@[simp]
theorem contents_cons (fingerprint : Fingerprint) (windows : List Window)
    (later : List (Fingerprint × List Window)) :
    contents ((fingerprint, windows) :: later) =
      (windows.map fun window => (fingerprint, window)) ++ contents later := rfl

theorem mem_contents {item : Fingerprint × Window} {entries : List (Fingerprint × List Window)} :
    item ∈ contents entries ↔ ∃ windows, (item.1, windows) ∈ entries ∧ item.2 ∈ windows := by
  constructor
  · intro member
    obtain ⟨entry, present, inside⟩ := List.mem_flatMap.mp member
    obtain ⟨window, held, rfl⟩ := List.mem_map.mp inside
    exact ⟨entry.2, present, held⟩
  · rintro ⟨windows, present, held⟩
    exact List.mem_flatMap.mpr ⟨(item.1, windows), present, List.mem_map.mpr ⟨item.2, held, rfl⟩⟩

theorem mem_under {fingerprint : Fingerprint} {window : Window}
    {items : List (Fingerprint × Window)} :
    window ∈ under fingerprint items ↔ (fingerprint, window) ∈ items := by
  constructor
  · intro member
    obtain ⟨item, kept, rfl⟩ := List.mem_map.mp member
    obtain ⟨present, same⟩ := List.mem_filter.mp kept
    have equal : item.1 = fingerprint := of_decide_eq_true same
    rw [← equal]
    exact present
  · intro member
    exact List.mem_map.mpr ⟨(fingerprint, window), List.mem_filter.mpr ⟨member, by simp⟩, rfl⟩

theorem under_perm {left right : List (Fingerprint × Window)} (same : left.Perm right)
    (fingerprint : Fingerprint) : (under fingerprint left).Perm (under fingerprint right) :=
  (same.filter _).map _

private theorem under_append (fingerprint : Fingerprint)
    (earlier later : List (Fingerprint × Window)) :
    under fingerprint (earlier ++ later) = under fingerprint earlier ++ under fingerprint later := by
  simp only [under, List.filter_append, List.map_append]

private theorem under_tagged (known fingerprint : Fingerprint) (windows : List Window) :
    under fingerprint (windows.map fun window => (known, window)) =
      if known = fingerprint then windows else [] := by
  by_cases same : known = fingerprint
  · simp [under, List.filter_map, Function.comp_def, same]
  · simp [under, List.filter_map, Function.comp_def, same]

private theorem under_contents_absent {fingerprint : Fingerprint}
    {entries : List (Fingerprint × List Window)}
    (absent : fingerprint ∉ entries.map (·.1)) : under fingerprint (contents entries) = [] := by
  apply List.eq_nil_iff_forall_not_mem.mpr
  intro window member
  obtain ⟨windows, present, _⟩ := mem_contents.mp (mem_under.mp member)
  exact absent (List.mem_map.mpr ⟨(fingerprint, windows), present, rfl⟩)

/-- The entry of a fingerprint holds all of its windows. -/
theorem under_contents {fingerprint : Fingerprint} {windows : List Window}
    {entries : List (Fingerprint × List Window)} (distinct : (entries.map (·.1)).Nodup)
    (present : (fingerprint, windows) ∈ entries) :
    under fingerprint (contents entries) = windows := by
  induction entries with
  | nil => cases present
  | cons entry later ih =>
      obtain ⟨known, held⟩ := entry
      obtain ⟨fresh, others⟩ := List.nodup_cons.mp distinct
      rw [contents_cons, under_append, under_tagged]
      rcases List.mem_cons.mp present with here | below
      · obtain ⟨rfl, rfl⟩ := Prod.mk.inj here
        rw [if_pos rfl, under_contents_absent fresh, List.append_nil]
      · have different : known ≠ fingerprint := by
          rintro rfl
          exact fresh (List.mem_map.mpr ⟨(known, windows), below, rfl⟩)
        rw [if_neg different, List.nil_append]
        exact ih others below

theorem mem_entries_of_under_ne_nil {fingerprint : Fingerprint}
    {entries : List (Fingerprint × List Window)} (distinct : (entries.map (·.1)).Nodup)
    (some : under fingerprint (contents entries) ≠ []) :
    (fingerprint, under fingerprint (contents entries)) ∈ entries := by
  obtain ⟨window, member⟩ := List.exists_mem_of_ne_nil _ some
  obtain ⟨windows, present, _⟩ := mem_contents.mp (mem_under.mp member)
  rw [under_contents distinct present]
  exact present

/-! ### Placing a window -/

theorem contents_place (fingerprint : Fingerprint) (window : Window)
    (entries : List (Fingerprint × List Window)) :
    (contents (place fingerprint window entries)).Perm
      ((fingerprint, window) :: contents entries) := by
  induction entries with
  | nil => exact List.Perm.refl _
  | cons entry later ih =>
      obtain ⟨known, held⟩ := entry
      by_cases same : known = fingerprint
      · subst same
        rw [place, if_pos rfl]
        exact List.Perm.refl _
      · rw [place, if_neg same, contents_cons, contents_cons]
        exact (ih.append_left _).trans List.perm_middle

theorem fingerprints_place (fingerprint : Fingerprint) (window : Window)
    (entries : List (Fingerprint × List Window)) :
    (place fingerprint window entries).map (·.1) =
      if fingerprint ∈ entries.map (·.1) then entries.map (·.1)
      else entries.map (·.1) ++ [fingerprint] := by
  induction entries with
  | nil => rfl
  | cons entry later ih =>
      obtain ⟨known, held⟩ := entry
      by_cases same : known = fingerprint
      · subst same
        simp [place]
      · have other : fingerprint ≠ known := fun equal => same equal.symm
        rw [place, if_neg same, List.map_cons, List.map_cons, ih]
        by_cases present : fingerprint ∈ later.map (·.1)
        · rw [if_pos present, if_pos (List.mem_cons_of_mem _ present)]
        · rw [if_neg present, if_neg (by simpa [other] using present)]
          rfl

theorem Keyed.empty : Keyed Tally.empty.entries :=
  ⟨List.nodup_nil, fun _ member => by cases member⟩

theorem Keyed.place {entries : List (Fingerprint × List Window)} (keyed : Keyed entries)
    (fingerprint : Fingerprint) (window : Window) :
    Keyed (Tally.place fingerprint window entries) := by
  constructor
  · rw [fingerprints_place]
    by_cases present : fingerprint ∈ entries.map (·.1)
    · rw [if_pos present]
      exact keyed.distinct
    · rw [if_neg present]
      exact List.nodup_append_comm.mp (List.nodup_cons.mpr ⟨present, keyed.distinct⟩)
  · have inhabited := keyed.inhabited
    clear keyed
    induction entries with
    | nil =>
        intro entry member
        rw [List.mem_singleton.mp member]
        exact List.cons_ne_nil _ _
    | cons known later ih =>
        intro entry member
        rw [Tally.place] at member
        by_cases same : known.1 = fingerprint
        · rw [if_pos same] at member
          rcases List.mem_cons.mp member with rfl | below
          · exact List.cons_ne_nil _ _
          · exact inhabited entry (List.mem_cons_of_mem _ below)
        · rw [if_neg same] at member
          rcases List.mem_cons.mp member with rfl | below
          · exact inhabited _ List.mem_cons_self
          · exact ih (fun entry member => inhabited entry (List.mem_cons_of_mem _ member))
              entry below

/-- Handing out the entries in another order keeps them keyed. -/
theorem Keyed.perm {left right : List (Fingerprint × List Window)} (keyed : Keyed left)
    (same : left.Perm right) : Keyed right :=
  ⟨(same.map _).nodup keyed.distinct,
    fun entry member => keyed.inhabited entry (same.mem_iff.mpr member)⟩

theorem contents_perm {left right : List (Fingerprint × List Window)} (same : left.Perm right) :
    (contents left).Perm (contents right) :=
  same.flatMap_right _

/-! ### Running steps -/

/-- A step adds to the contents what it pushes. -/
theorem contents_step (tally : Tally) (step : Step) :
    (contents (tally.step step).entries).Perm (step.pushed?.toList ++ contents tally.entries) := by
  cases step with
  | push fingerprint window => exact contents_place fingerprint window tally.entries
  | announce windows => exact List.Perm.refl _

theorem counted_step (tally : Tally) (step : Step) :
    (tally.step step).counted = tally.counted + step.announced := by
  cases step with
  | push fingerprint window => rfl
  | announce windows => rfl

theorem Keyed.step {tally : Tally} (keyed : Keyed tally.entries) (step : Step) :
    Keyed (tally.step step).entries := by
  cases step with
  | push fingerprint window => exact keyed.place fingerprint window
  | announce windows => exact keyed

theorem Keyed.run {tally : Tally} (keyed : Keyed tally.entries) (steps : List Step) :
    Keyed (tally.run steps).entries := by
  induction steps generalizing tally with
  | nil => exact keyed
  | cons step later ih => exact ih (keyed.step step)

private theorem pushed_cons (step : Step) (later : List Step) :
    pushed (step :: later) = step.pushed?.toList ++ pushed later := by
  cases step with
  | push fingerprint window => rfl
  | announce windows => rfl

/-- A run adds to the contents exactly what its steps push. -/
theorem contents_run (tally : Tally) (steps : List Step) :
    (contents (tally.run steps).entries).Perm (pushed steps ++ contents tally.entries) := by
  induction steps generalizing tally with
  | nil => exact List.Perm.refl _
  | cons step later ih =>
      have rest := ih (tally.step step)
      have first := contents_step tally step
      rw [pushed_cons, List.append_assoc]
      exact rest.trans ((first.append_left _).trans (List.perm_append_comm_assoc _ _ _))

theorem counted_run (tally : Tally) (steps : List Step) :
    (tally.run steps).counted = tally.counted + announced steps := by
  induction steps generalizing tally with
  | nil => rfl
  | cons step later ih =>
      have rest := ih (tally.step step)
      rw [counted_step] at rest
      calc ((tally.step step).run later).counted
          = tally.counted + step.announced + announced later := rest
        _ = tally.counted + (step.announced + announced later) := Nat.add_assoc _ _ _
        _ = tally.counted + announced (step :: later) := rfl

end RepeatScan.Tally
