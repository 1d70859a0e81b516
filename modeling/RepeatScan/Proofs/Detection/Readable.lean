import RepeatScan.Proofs.Detection.Streaming
import RepeatScan.Proofs.Fingerprint.Rolling
import RepeatScan.Proofs.Grouping.Places

set_option autoImplicit false

/-! The sources that a run can read. Their windows are listed in full and their indices grow, so what is
known of the groups of enumerated sources holds of the report of a run, whether it streams or not. -/

namespace RepeatScan.Detection

variable {surroundings : Surroundings} {settings : Settings} {mask : Mask} {sources : List Source}

theorem windows_eq_listing (size : Nat) (tokens : TokenStream) :
    Fingerprint.windows size tokens.tokens =
      Grouping.listing Fingerprint.ofTokens size tokens := by
  unfold Fingerprint.windows Grouping.listing
  rw [Fingerprint.windowsBy_eq, TokenStream.length_tokens]
  apply List.map_congr_left
  intro start _
  rw [TokenStream.slice, Fingerprint.slice_window]
  rfl

theorem listing_readable {found : ScannedSource}
    (member : found ∈ readable surroundings settings mask sources) :
    found.windows = Grouping.listing Fingerprint.ofTokens settings.windowSize found.tokens := by
  rw [windows_of_mem_readable member]
  exact windows_eq_listing settings.windowSize found.tokens

theorem distinct_readable (surroundings : Surroundings) (settings : Settings) (mask : Mask)
    (sources : List Source) :
    ((readable surroundings settings mask sources).map (·.index)).Nodup :=
  (index_readable_increasing surroundings settings mask sources).imp Nat.ne_of_lt

theorem enumerated_readable (surroundings : Surroundings) (settings : Settings) (mask : Mask)
    (sources : List Source) :
    Grouping.Enumerated settings.windowSize (readable surroundings settings mask sources) :=
  Grouping.enumerated_of_listing (distinct_readable surroundings settings mask sources)
    fun _ member => listing_readable member

/-- The windows of a run carry the fingerprints of their tokens. -/
theorem prints_readable (surroundings : Surroundings) (settings : Settings) (mask : Mask)
    (sources : List Source) :
    Grouping.prints settings.windowSize (readable surroundings settings mask sources) =
      (Place.all settings.windowSize (readable surroundings settings mask sources)).map
        fun place => (Fingerprint.ofTokens (place.tokens settings.windowSize),
          place.window settings.windowSize) :=
  Place.prints_eq_map fun _ member => listing_readable member

/-- The report of a run is that of its readable sources, collected one after the other. -/
theorem report_conclusion (surroundings : Surroundings) (settings : Settings) (mask : Mask)
    (sources : List Source) :
    (conclusion tally surroundings settings mask sources).report =
      Grouping.reportOf settings.windowSize (groupingOptions settings)
        (readable surroundings settings mask sources) := by
  unfold Grouping.reportOf
  rw [← buckets_tally settings]
  rfl

end RepeatScan.Detection
