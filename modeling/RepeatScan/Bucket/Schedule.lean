import RepeatScan.Bucket.Tally

set_option autoImplicit false

/-! Schedules of workers that share a tally. Each worker takes its own steps in order; a schedule says
whose step comes next. The round-robin schedule is one of them. -/

namespace RepeatScan.Schedule

/-- A list of steps interleaves the steps of workers when it comes about by taking, again and again,
the next step of some worker that has one left. -/
inductive Interleaves {Step : Type} : List (List Step) → List Step → Prop where
  | done {workers : List (List Step)} (finished : ∀ steps ∈ workers, steps = []) :
      Interleaves workers []
  | next {before after : List (List Step)} {step : Step} {rest steps : List Step}
      (later : Interleaves (before ++ rest :: after) steps) :
      Interleaves (before ++ (step :: rest) :: after) (step :: steps)

def remaining {Step : Type} (workers : List (List Step)) : Nat :=
  workers.foldr (fun steps left => steps.length + left) 0

/-- The next step of every worker that has one left. -/
def heads {Step : Type} (workers : List (List Step)) : List Step :=
  workers.filterMap List.head?

/-- The steps that are left when every worker has taken one. -/
def tails {Step : Type} (workers : List (List Step)) : List (List Step) :=
  workers.map List.tail

theorem remaining_tails_le {Step : Type} (workers : List (List Step)) :
    remaining (tails workers) ≤ remaining workers := by
  induction workers with
  | nil => simp [remaining, tails]
  | cons steps others ih =>
      simp only [remaining, tails, List.map_cons, List.foldr_cons, List.length_tail] at ih ⊢
      omega

theorem remaining_tails_lt {Step : Type} {workers : List (List Step)}
    (busy : heads workers ≠ []) : remaining (tails workers) < remaining workers := by
  induction workers with
  | nil => simp [heads] at busy
  | cons steps others ih =>
      cases steps with
      | nil =>
          have shorter := ih (by simpa [heads] using busy)
          simpa [remaining, tails] using shorter
      | cons step rest =>
          have bound := remaining_tails_le others
          simp only [remaining, tails, List.map_cons, List.foldr_cons, List.tail_cons,
            List.length_cons] at bound ⊢
          omega

/-- Lets every worker that has a step left take one, round after round. -/
def roundRobin {Step : Type} (workers : List (List Step)) : List Step :=
  if heads workers = [] then [] else heads workers ++ roundRobin (tails workers)
termination_by remaining workers
decreasing_by
  rename_i busy
  exact remaining_tails_lt busy

end RepeatScan.Schedule
