import Mathlib.Data.Finset.Card
import Mathlib.Data.Finset.Dedup
import RepeatScan.Proofs.Bucket.Conservation
import RepeatScan.Proofs.Detection.Readable

set_option autoImplicit false

/-! What a run counts. Its windows reach the buckets without loss, whether they stream in or not, so
the totals of a run are those of the sources that it can read, and the buckets that it counts are as
many as there are fingerprints among the windows of these sources. -/

namespace RepeatScan.Detection

open Tally (Conserves HandsOut Insertion insertAll)

variable {surroundings : Surroundings} {settings : Settings} {mask : Mask} {sources : List Source}

/-- A tally that is filled in batch or by workers that stream. -/
def Collected (size : Nat) (found : List ScannedSource) (collected : Tally) : Prop :=
  Batched size found collected ∨ Streamed size found collected

theorem Collected.agrees {size : Nat} {found : List ScannedSource} {collected : Tally}
    (collects : Collected size found collected) :
    collected.buckets = (Grouping.tally size found).buckets ∧
      collected.counted = (Grouping.tally size found).counted := by
  rcases collects with batches | streams
  · exact batches.agrees
  · exact streams.agrees (HandsOut.refl _)

/-- Every run collects its windows in one of these ways. -/
theorem collected_tally (settings : Settings) (found : List ScannedSource) :
    Collected settings.windowSize found (tally settings found) := by
  unfold tally
  cases settings.streaming with
  | false => exact Or.inl (HandsOut.refl _)
  | true => exact Or.inr (streamed_roundRobin settings.windowSize found)

/-- What a run says of the sources that it can read and of the buckets of their windows: how many
tokens and windows there are, and how many fingerprints among the windows. -/
structure Counts (size : Nat) (found : List ScannedSource) (buckets : List Bucket)
    (statistics : Statistics) : Prop where
  tokens : statistics.totalTokens =
    found.foldr (fun source total => source.tokens.length + total) 0
  windows : statistics.totalWindows =
    found.foldr (fun source total => Window.count source.tokens.length size + total) 0
  held : statistics.totalWindows =
    buckets.foldr (fun bucket total => bucket.windows.length + total) 0
  fingerprints : statistics.distinctFingerprints =
    ((Place.all size found).map fun place => Fingerprint.ofTokens (place.tokens size)).toFinset.card

theorem counted_readable (surroundings : Surroundings) (settings : Settings) (mask : Mask)
    (sources : List Source) :
    (Grouping.tally settings.windowSize
        (readable surroundings settings mask sources)).counted =
      (readable surroundings settings mask sources).foldr
        (fun source total => Window.count source.tokens.length settings.windowSize + total) 0 := by
  rw [Grouping.counted_tally]
  apply List.foldr_ext
  intro source member total
  rw [listing_readable member, Grouping.listing, List.length_map, List.length_range]

/-- There is a bucket for every fingerprint of a window. -/
theorem length_buckets_readable (surroundings : Surroundings) (settings : Settings) (mask : Mask)
    (sources : List Source) :
    (Grouping.tally settings.windowSize
        (readable surroundings settings mask sources)).buckets.length =
      ((Place.all settings.windowSize (readable surroundings settings mask sources)).map
        fun place => Fingerprint.ofTokens (place.tokens settings.windowSize)).toFinset.card := by
  have distinct := Grouping.nodup_fingerprints_tally settings.windowSize
    (readable surroundings settings mask sources)
  rw [← List.length_map (·.fingerprint), ← List.toFinset_card_of_nodup distinct]
  congr 1
  ext fingerprint
  rw [List.mem_toFinset, List.mem_toFinset]
  refine Grouping.mem_fingerprints_tally.trans ?_
  rw [prints_readable, List.map_map]
  rfl

theorem counts_conclusion {collect : Settings → List ScannedSource → Tally}
    (collects : ∀ found, Collected settings.windowSize found (collect settings found)) :
    Counts settings.windowSize (readable surroundings settings mask sources)
      (collect settings (readable surroundings settings mask sources)).buckets
      (conclusion collect surroundings settings mask sources).statistics := by
  obtain ⟨buckets, counted⟩ :=
    (collects (readable surroundings settings mask sources)).agrees
  have batch : HandsOut (insertAll settings.windowSize
      (Grouping.insertions (readable surroundings settings mask sources)))
      (Grouping.tally settings.windowSize (readable surroundings settings mask sources)) := by
    rw [Grouping.tally_eq_insertAll]
    exact HandsOut.refl _
  constructor
  case tokens => rfl
  case windows => exact counted.trans (counted_readable surroundings settings mask sources)
  case held =>
    rw [buckets]
    exact counted.trans (Tally.counted_eq_length_buckets batch)
  case fingerprints =>
    refine Eq.trans (congrArg List.length buckets) ?_
    exact length_buckets_readable surroundings settings mask sources

/-- No window is lost and none is counted twice. Whatever is inserted into a tally, its buckets hold
it, and its count is the number of windows inserted, in whatever order a map hands its entries out.
So a run that gives something counts the tokens and windows of the sources that it can read and the
fingerprints among these windows, whether they stream in or not. -/
theorem conserved_run [Platform] :
    (∀ size insertions handed, HandsOut (insertAll size insertions) handed →
        handed.counted =
            insertions.foldr (fun insertion total => insertion.windows.length + total) 0 ∧
          Conserves size insertions handed.buckets) ∧
      (∀ settings found, Collected settings.windowSize found (tally settings found)) ∧
      ∀ collect surroundings settings sources cancelled outcome,
        (∀ found, Collected settings.windowSize found (collect settings found)) →
          runBy collect surroundings settings sources cancelled = .ok outcome →
            ∃ mask, Mask.ofSettings settings = .ok mask ∧
              Counts settings.windowSize (readable surroundings settings mask sources)
                (collect settings (readable surroundings settings mask sources)).buckets
                outcome.statistics := by
  refine ⟨?_, collected_tally, ?_⟩
  · intro size insertions handed given
    exact ⟨Tally.counted_of_handsOut given, Tally.conserves_of_handsOut given⟩
  · intro collect surroundings settings sources cancelled outcome collects ran
    obtain ⟨mask, built, rfl⟩ := exists_mask_of_runBy ran
    exact ⟨mask, built, counts_conclusion collects⟩

/-- Windows that come again, for one source under two fingerprints and for one twice. -/
def again : List Insertion :=
  [⟨1, [⟨0, ⟨7⟩⟩, ⟨3, ⟨5⟩⟩]⟩, ⟨0, []⟩, ⟨0, [⟨2, ⟨5⟩⟩]⟩, ⟨1, [⟨0, ⟨7⟩⟩, ⟨0, ⟨5⟩⟩]⟩]

/-- The entries of a tally in the opposite order. -/
def handedOver : Tally :=
  { insertAll 2 again with entries := (insertAll 2 again).entries.reverse }

theorem conserved_run_again :
    (handedOver.counted = 5 ∧ Conserves 2 again handedOver.buckets) ∧
      ∃ outcome, run noFiles { singles true with streaming := true } twoTexts false = .ok outcome ∧
        outcome.statistics.totalTokens = 5 ∧ outcome.statistics.totalWindows = 5 ∧
        outcome.statistics.distinctFingerprints = 3 := by
  obtain ⟨inserts, collects, runs⟩ := conserved_run
  refine ⟨inserts 2 again handedOver ⟨List.reverse_perm _, rfl⟩, ?_⟩
  have ran := @runBy_of_valid noFiles twoTexts _ tally
    ⟨{ singles true with streaming := true }, Mask.standard, rfl, rfl⟩
  obtain ⟨mask, built, counts⟩ := runs tally noFiles _ twoTexts false _ (collects _) ran
  obtain rfl := Except.ok.inj built
  refine ⟨_, ran, ?_, ?_, ?_⟩
  · exact counts.tokens.trans (by decide +kernel)
  · exact counts.windows.trans (by decide +kernel)
  · exact counts.fingerprints.trans (by decide +kernel)

end RepeatScan.Detection
