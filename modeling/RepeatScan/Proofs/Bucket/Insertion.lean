import Mathlib.Data.List.Count
import RepeatScan.Proofs.Bucket.Contents

set_option autoImplicit false

/-! Inserting sources. The windows of one source after the other are inserted, and nothing is asked
of the numbers of the sources or of the windows: a number may come again, and so may a window.
Whatever is inserted is then in the tally, as often as it was inserted. -/

namespace RepeatScan.Tally

/-- Windows that are inserted for one source. -/
structure Insertion where
  source : Nat
  windows : List WindowPrint

def insertAll (size : Nat) (insertions : List Insertion) : Tally :=
  insertions.foldl (fun tally insertion => tally.insert size insertion.source insertion.windows)
    .empty

/-- All windows that are inserted, each with its fingerprint. -/
def inserted (size : Nat) (insertions : List Insertion) : List (Fingerprint × Window) :=
  insertions.flatMap fun insertion =>
    insertion.windows.map fun window =>
      (window.fingerprint, ⟨insertion.source, window.start, size⟩)

/-- All windows that are inserted for a source. -/
def insertedFor (source : Nat) (insertions : List Insertion) : List WindowPrint :=
  (insertions.filter fun insertion => insertion.source = source).flatMap (·.windows)

/-! ### One source -/

private theorem pushed_stepsOf (size source : Nat) (windows : List WindowPrint) :
    pushed (stepsOf size source windows) =
      windows.map fun window => (window.fingerprint, ⟨source, window.start, size⟩) := by
  unfold pushed stepsOf
  rw [List.filterMap_append, List.filterMap_map]
  change List.filterMap _ windows ++ [] = _
  rw [List.append_nil, ← List.filterMap_eq_map]
  rfl

private theorem announced_stepsOf (size source : Nat) (windows : List WindowPrint) :
    announced (stepsOf size source windows) = windows.length := by
  have pushes (total : Nat) : (windows.map fun window =>
      Step.push window.fingerprint ⟨source, window.start, size⟩).foldr
        (fun step total => step.announced + total) total = total := by
    induction windows with
    | nil => rfl
    | cons window later ih => exact (Nat.zero_add _).trans ih
  rw [announced, stepsOf, List.foldr_append, pushes]
  rfl

theorem contents_insert (tally : Tally) (size source : Nat) (windows : List WindowPrint) :
    (contents (tally.insert size source windows).entries).Perm
      (windows.map (fun window => (window.fingerprint, ⟨source, window.start, size⟩)) ++
        contents tally.entries) := by
  rw [← pushed_stepsOf]
  exact contents_run tally _

theorem counted_insert (tally : Tally) (size source : Nat) (windows : List WindowPrint) :
    (tally.insert size source windows).counted = tally.counted + windows.length := by
  rw [insert, counted_run, announced_stepsOf]

/-! ### All sources -/

theorem keyed_insertAll (size : Nat) (insertions : List Insertion) :
    Keyed (insertAll size insertions).entries := by
  have filled (start : Tally) (keyed : Keyed start.entries) :
      Keyed (insertions.foldl (fun tally insertion =>
        tally.insert size insertion.source insertion.windows) start).entries := by
    induction insertions generalizing start with
    | nil => exact keyed
    | cons insertion later ih => exact ih _ (keyed.run _)
  exact filled .empty Keyed.empty

/-- The contents of a tally are what was inserted. -/
theorem contents_insertAll (size : Nat) (insertions : List Insertion) :
    (contents (insertAll size insertions).entries).Perm (inserted size insertions) := by
  have filled (start : Tally) :
      (contents (insertions.foldl (fun tally insertion =>
        tally.insert size insertion.source insertion.windows) start).entries).Perm
          (inserted size insertions ++ contents start.entries) := by
    induction insertions generalizing start with
    | nil => exact List.Perm.refl _
    | cons insertion later ih =>
        have added := contents_insert start size insertion.source insertion.windows
        rw [inserted, List.flatMap_cons, List.append_assoc]
        refine (ih _).trans ?_
        refine (added.append_left (inserted size later)).trans ?_
        exact List.perm_append_comm_assoc _ _ _
  have whole := filled .empty
  rwa [empty, contents_nil, List.append_nil] at whole

theorem counted_insertAll (size : Nat) (insertions : List Insertion) :
    (insertAll size insertions).counted =
      insertions.foldr (fun insertion total => insertion.windows.length + total) 0 := by
  have filled (start : Tally) : (insertions.foldl (fun tally insertion =>
      tally.insert size insertion.source insertion.windows) start).counted =
        start.counted +
          insertions.foldr (fun insertion total => insertion.windows.length + total) 0 := by
    induction insertions generalizing start with
    | nil => rfl
    | cons insertion later ih =>
        rw [List.foldl_cons, ih, counted_insert, List.foldr_cons, Nat.add_assoc]
  exact (filled .empty).trans (Nat.zero_add _)

/-! ### How often a window is inserted -/

private theorem insertedFor_cons (source : Nat) (insertion : Insertion)
    (later : List Insertion) :
    insertedFor source (insertion :: later) =
      (if insertion.source = source then insertion.windows else []) ++
        insertedFor source later := by
  unfold insertedFor
  by_cases same : insertion.source = source
  · rw [List.filter_cons_of_pos (by simpa using same), if_pos same, List.flatMap_cons]
  · rw [List.filter_cons_of_neg (by simpa using same), if_neg same, List.nil_append]

private theorem count_tagged (size own source start : Nat) (fingerprint : Fingerprint)
    (windows : List WindowPrint) :
    (windows.map fun window => (window.fingerprint, Window.mk own window.start size)).count
        (fingerprint, ⟨source, start, size⟩) =
      (if own = source then windows else []).count ⟨start, fingerprint⟩ := by
  by_cases same : own = source
  · subst same
    have injective : Function.Injective fun window : WindowPrint =>
        (window.fingerprint, Window.mk own window.start size) := by
      intro left right equal
      cases left
      cases right
      simp only [Prod.mk.injEq, Window.mk.injEq, true_and, and_true] at equal
      rw [equal.1, equal.2]
    rw [if_pos rfl]
    exact List.count_map_of_injective windows _ injective ⟨start, fingerprint⟩
  · rw [if_neg same, List.count_nil]
    apply List.count_eq_zero_of_not_mem
    intro member
    obtain ⟨window, _, equal⟩ := List.mem_map.mp member
    exact same (congrArg (fun item => item.2.source) equal)

/-- A window comes under a fingerprint as often as it is inserted with that one for its source. -/
theorem count_inserted (size source start : Nat) (fingerprint : Fingerprint)
    (insertions : List Insertion) :
    (inserted size insertions).count (fingerprint, ⟨source, start, size⟩) =
      (insertedFor source insertions).count ⟨start, fingerprint⟩ := by
  induction insertions with
  | nil => rfl
  | cons insertion later ih =>
      rw [inserted, List.flatMap_cons, List.count_append, ← inserted, ih, insertedFor_cons,
        List.count_append, count_tagged]

end RepeatScan.Tally
