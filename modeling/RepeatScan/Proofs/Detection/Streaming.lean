import RepeatScan.Proofs.Bucket.Interleaving
import RepeatScan.Proofs.Detection.Run

set_option autoImplicit false

/-! Streaming and batch. When windows stream in, every worker pushes those of its source in order, and
nothing is said about how the workers' steps mix; a map hands its entries out in any order. None of
this shows in what a run gives. -/

namespace RepeatScan.Detection

open Tally (HandsOut)

/-- A tally that workers may leave behind: they take turns in some way, and the entries come back in
some order. -/
def Streamed (size : Nat) (found : List ScannedSource) (collected : Tally) : Prop :=
  ∃ steps, Schedule.Interleaves (workers size found) steps ∧
    HandsOut (Tally.empty.run steps) collected

/-- A tally filled source by source, whose entries come back in some order. -/
def Batched (size : Nat) (found : List ScannedSource) (collected : Tally) : Prop :=
  HandsOut (Grouping.tally size found) collected

private theorem tally_eq_run (size : Nat) (found : List ScannedSource) :
    Grouping.tally size found = Tally.empty.run (workers size found).flatten := by
  unfold Grouping.tally
  generalize Tally.empty = start
  induction found generalizing start with
  | nil => rfl
  | cons source later ih =>
      rw [List.foldl_cons, ih]
      change _ = start.run
        (Tally.stepsOf size source.index source.windows ++ (workers size later).flatten)
      rw [Tally.run_append]
      rfl

theorem Streamed.agrees {size : Nat} {found : List ScannedSource} {streamed batch : Tally}
    (streams : Streamed size found streamed) (batches : Batched size found batch) :
    streamed.buckets = batch.buckets ∧ streamed.counted = batch.counted := by
  obtain ⟨steps, mixed, handed⟩ := streams
  unfold Batched at batches
  rw [tally_eq_run] at batches
  exact ⟨Tally.buckets_eq_of_perm mixed.perm handed batches,
    Tally.counted_eq_of_perm mixed.perm handed batches⟩

theorem Batched.agrees {size : Nat} {found : List ScannedSource} {batch : Tally}
    (batches : Batched size found batch) :
    batch.buckets = (Grouping.tally size found).buckets ∧
      batch.counted = (Grouping.tally size found).counted := by
  unfold Batched at batches
  rw [tally_eq_run] at batches ⊢
  exact ⟨Tally.buckets_eq_of_perm (List.Perm.refl _) batches (HandsOut.refl _),
    Tally.counted_eq_of_perm (List.Perm.refl _) batches (HandsOut.refl _)⟩

theorem streamed_roundRobin (size : Nat) (found : List ScannedSource) :
    Streamed size found (Tally.empty.run (Schedule.roundRobin (workers size found))) :=
  ⟨_, Schedule.roundRobin_interleaves _, HandsOut.refl _⟩

theorem conclude_congr {first second : Tally} (surroundings : Surroundings) (settings : Settings)
    (outcomes : List (Except Diagnostic ScannedSource)) (buckets : first.buckets = second.buckets)
    (counted : first.counted = second.counted) :
    conclude surroundings settings outcomes first =
      conclude surroundings settings outcomes second := by
  unfold conclude
  rw [buckets, counted]

theorem agrees_tally (settings : Settings) (found : List ScannedSource) :
    (tally settings found).buckets = (Grouping.tally settings.windowSize found).buckets ∧
      (tally settings found).counted = (Grouping.tally settings.windowSize found).counted := by
  unfold tally
  cases settings.streaming with
  | false => exact ⟨rfl, rfl⟩
  | true => exact (streamed_roundRobin settings.windowSize found).agrees (HandsOut.refl _)

/-- Whether a run streams or not, its buckets are those of the batch. -/
theorem buckets_tally (settings : Settings) (found : List ScannedSource) :
    (tally settings found).buckets = (Grouping.tally settings.windowSize found).buckets :=
  (agrees_tally settings found).1

private theorem fault?_streaming (settings : Settings) (streaming : Bool) :
    Settings.fault? { settings with streaming := streaming } = settings.fault? := rfl

private theorem ofSettings_streaming [Platform] (settings : Settings) (streaming : Bool) :
    Mask.ofSettings { settings with streaming := streaming } = Mask.ofSettings settings := rfl

/-- Runs whose windows are collected into the same buckets give the same. -/
theorem runBy_congr [Platform] {first second : Settings → List ScannedSource → Tally}
    (surroundings : Surroundings) (settings : Settings) (sources : List Source)
    (cancelled left right : Bool)
    (agree : ∀ found,
      (first { settings with streaming := left } found).buckets =
          (second { settings with streaming := right } found).buckets ∧
        (first { settings with streaming := left } found).counted =
          (second { settings with streaming := right } found).counted) :
    runBy first surroundings { settings with streaming := left } sources cancelled =
      runBy second surroundings { settings with streaming := right } sources cancelled := by
  rw [runBy_eq, runBy_eq, fault?_streaming settings left, fault?_streaming settings right,
    ofSettings_streaming settings left, ofSettings_streaming settings right]
  cases settings.fault? with
  | some error => rfl
  | none =>
      cases Mask.ofSettings settings with
      | error error => rfl
      | ok mask =>
          cases cancelled with
          | true => rfl
          | false =>
              obtain ⟨buckets, counted⟩ := agree (readable surroundings settings mask sources)
              exact congrArg Except.ok (conclude_congr surroundings settings _ buckets counted)

/-- However workers take turns and entries come back, a run that streams gives what a run in batch
gives: the same buckets and the same count, and with them the same report, the same diagnostics and
the same statistics, or the same error. -/
theorem streaming_eq_batch [Platform] (surroundings : Surroundings) (settings : Settings)
    (sources : List Source) (cancelled : Bool) (streamed batch : Nat → List ScannedSource → Tally)
    (streams : ∀ size found, Streamed size found (streamed size found))
    (batches : ∀ size found, Batched size found (batch size found)) :
    (∀ size found, (streamed size found).buckets = (batch size found).buckets ∧
        (streamed size found).counted = (batch size found).counted) ∧
      runBy (fun settings => streamed settings.windowSize) surroundings
          { settings with streaming := true } sources cancelled =
        runBy (fun settings => batch settings.windowSize) surroundings
          { settings with streaming := false } sources cancelled ∧
      ∀ streaming, run surroundings { settings with streaming := streaming } sources cancelled =
        runBy (fun settings => batch settings.windowSize) surroundings
          { settings with streaming := false } sources cancelled := by
  have agree := fun size found => (streams size found).agrees (batches size found)
  refine ⟨agree, ?_, ?_⟩
  · exact runBy_congr surroundings settings sources cancelled true false
      (agree settings.windowSize)
  · intro streaming
    apply runBy_congr surroundings settings sources cancelled streaming false
    intro found
    obtain ⟨buckets, counted⟩ := (batches settings.windowSize found).agrees
    have own := agrees_tally { settings with streaming := streaming } found
    exact ⟨own.1.trans buckets.symm, own.2.trans counted.symm⟩

/-- What workers leave that take turns, when the entries come back in the opposite order. -/
def handedBack (size : Nat) (found : List ScannedSource) : Tally :=
  let filled := Tally.empty.run (Schedule.roundRobin (workers size found))
  { filled with entries := filled.entries.reverse }

theorem streaming_eq_batch_handedBack :
    runBy (fun settings => handedBack settings.windowSize) noFiles
        { singles true with streaming := true } twoTexts false =
      runBy (fun settings => Grouping.tally settings.windowSize) noFiles
        { singles true with streaming := false } twoTexts false := by
  have streams (size : Nat) (found : List ScannedSource) :
      Streamed size found (handedBack size found) :=
    ⟨_, Schedule.roundRobin_interleaves _, List.reverse_perm _, rfl⟩
  exact (streaming_eq_batch noFiles (singles true) twoTexts false handedBack Grouping.tally streams
    fun _ _ => HandsOut.refl _).2.1

end RepeatScan.Detection
