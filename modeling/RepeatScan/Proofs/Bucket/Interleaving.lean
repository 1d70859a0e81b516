import RepeatScan.Bucket.Schedule
import RepeatScan.Proofs.Bucket.Order

set_option autoImplicit false

/-! Interleaved steps. However workers take turns, the steps that reach the tally are the steps of all
workers in another order, and a tally forgets the order: neither its buckets nor its count show how
the steps were mixed or in which order the entries are handed out. -/

namespace RepeatScan

namespace Schedule

variable {Step : Type}

/-- An interleaving loses no step and doubles none. -/
theorem Interleaves.perm {workers : List (List Step)} {steps : List Step}
    (mixed : Interleaves workers steps) : steps.Perm workers.flatten := by
  induction mixed with
  | done finished => rw [List.flatten_eq_nil_iff.mpr finished]
  | @next before after step rest steps later ih =>
      rw [List.flatten_append, List.flatten_cons] at ih ⊢
      exact (ih.cons step).trans List.perm_middle.symm

private theorem Interleaves.heads_append {steps : List Step} (waiting : List (List Step)) :
    ∀ before : List (List Step), Interleaves (before ++ tails waiting) steps →
      Interleaves (before ++ waiting) (heads waiting ++ steps) := by
  induction waiting with
  | nil =>
      intro before rest
      exact rest
  | cons worker others ih =>
      intro before rest
      cases worker with
      | nil =>
          have skipped := ih (before ++ [[]]) (by simpa [tails] using rest)
          rw [List.append_assoc] at skipped
          exact skipped
      | cons step left =>
          have taken := ih (before ++ [left]) (by simpa [tails] using rest)
          rw [List.append_assoc] at taken
          exact Interleaves.next taken

/-- Taking turns is one way to interleave. -/
theorem roundRobin_interleaves (workers : List (List Step)) :
    Interleaves workers (roundRobin workers) := by
  fun_induction roundRobin workers with
  | case1 workers idle =>
      apply Interleaves.done
      intro steps member
      cases steps with
      | nil => rfl
      | cons step rest =>
          have first : step ∈ heads workers :=
            List.mem_filterMap.mpr ⟨step :: rest, member, rfl⟩
          rw [idle] at first
          cases first
  | case2 workers busy ih => exact Interleaves.heads_append workers [] ih

end Schedule

namespace Tally

/-- The tally as a map gives it back: its entries in any order, and its count. -/
structure HandsOut (tally collected : Tally) : Prop where
  entries : collected.entries.Perm tally.entries
  counted : collected.counted = tally.counted

theorem HandsOut.refl (tally : Tally) : HandsOut tally tally :=
  ⟨List.Perm.refl _, rfl⟩

theorem pushed_perm {left right : List Step} (same : left.Perm right) :
    (pushed left).Perm (pushed right) :=
  same.filterMap _

theorem announced_perm {left right : List Step} (same : left.Perm right) :
    announced left = announced right := by
  apply same.foldr_eq'
  intro first _ second _ total
  exact Nat.add_left_comm _ _ _

/-- Neither the order of the steps nor that of the entries shows in the buckets. -/
theorem buckets_eq_of_perm {left right : List Step} (same : left.Perm right)
    {first second : Tally} (firstHanded : HandsOut (empty.run left) first)
    (secondHanded : HandsOut (empty.run right) second) : first.buckets = second.buckets := by
  apply Bucket.ofEntries_eq_of_perm
  · exact (Keyed.empty.run left).perm firstHanded.entries.symm
  · exact (Keyed.empty.run right).perm secondHanded.entries.symm
  · have leftContents := contents_run empty left
    have rightContents := contents_run empty right
    have between := (pushed_perm same).append_right (contents empty.entries)
    have first := (contents_perm firstHanded.entries).trans leftContents
    have second := (contents_perm secondHanded.entries).trans rightContents
    exact first.trans (between.trans second.symm)

theorem counted_eq_of_perm {left right : List Step} (same : left.Perm right)
    {first second : Tally} (firstHanded : HandsOut (empty.run left) first)
    (secondHanded : HandsOut (empty.run right) second) : first.counted = second.counted := by
  rw [firstHanded.counted, secondHanded.counted, counted_run, counted_run, announced_perm same]

end Tally

end RepeatScan
