import RepeatScan.Proofs.Detection.Reported
import RepeatScan.Proofs.Grouping.Bounds
import RepeatScan.Proofs.Grouping.Identity

set_option autoImplicit false

/-! The labels of a report. Where no two windows of a run with different tokens share a
fingerprint, the label of a group is the fingerprint of the tokens with which each of its occurrences
starts, no two groups have one label, and a group is looked up by its label. -/

namespace RepeatScan.Detection

variable {surroundings : Surroundings} {settings : Settings} {mask : Mask} {sources : List Source}

/-- An occurrence in the source at a position lies inside its text, and the fingerprint is that of
its first tokens, as many as a window has. -/
def Labelled (surroundings : Surroundings) (size : Nat) (mask : Mask) (sources : List Source)
    (fingerprint : Fingerprint) (position : Nat) (occurrence : Occurrence) : Prop :=
  ∃ text, TextAt surroundings sources position text ∧
    occurrence.start + size ≤ occurrence.stop ∧
    occurrence.stop ≤ (mask.tokenStream text).length ∧
    fingerprint = Fingerprint.ofTokens
      (((mask.tokenStream text).slice occurrence.start occurrence.stop).take size)

/-- The windows of a run are listed with the fingerprints of their tokens. -/
theorem eq_ofTokens_of_mem_prints {fingerprint : Fingerprint} {window : Window}
    (printed : (fingerprint, window) ∈
      Grouping.prints settings.windowSize (readable surroundings settings mask sources))
    {found : ScannedSource} (known : found ∈ readable surroundings settings mask sources)
    (index : found.index = window.source) :
    fingerprint = Fingerprint.ofTokens
      (found.tokens.slice window.start (window.start + settings.windowSize)) := by
  rw [prints_readable] at printed
  obtain ⟨place, listed, same⟩ := List.mem_map.mp printed
  obtain ⟨rfl, rfl⟩ := Prod.mk.inj same
  obtain rfl : found = place.source :=
    List.inj_on_of_nodup_map (distinct_readable surroundings settings mask sources) known
      (Place.mem_all.mp listed).1 index
  rfl

private theorem take_slice (tokens : TokenStream) {start stop size : Nat}
    (long : start + size ≤ stop) :
    (tokens.slice start stop).take size = tokens.slice start (start + size) := by
  unfold TokenStream.slice
  rw [List.take_drop, List.take_take, Nat.min_eq_left long]

section Telling

variable (telling : Grouping.Telling settings.windowSize
  (readable surroundings settings mask sources))

include telling

theorem labelled_of_mem_located {group : Located}
    (member : group ∈ located surroundings settings mask sources) {entry : Nat × Occurrence}
    (listed : entry ∈ group.occurrences) :
    Labelled surroundings settings.windowSize mask sources group.fingerprint entry.1 entry.2 := by
  have enumerated := enumerated_readable surroundings settings mask sources
  obtain ⟨ordered, present, rfl⟩ := List.mem_map.mp member
  obtain ⟨span, inside, found⟩ := List.mem_filterMap.mp listed
  obtain ⟨occurrence, resolved, rfl⟩ := Option.map_eq_some_iff.mp found
  rw [buckets_tally] at present
  have spans : ordered.spans ∈ SpanGroup.lists _ := List.mem_map.mpr ⟨ordered, present, rfl⟩
  obtain ⟨source, known, index⟩ := enumerated.source_of_mem_spanGroups spans inside
  obtain ⟨given, text, stands, loaded, _, masked⟩ := given_of_mem_readable known
  obtain ⟨long, within⟩ := enumerated.fits_of_mem_spanGroups spans inside known index
  obtain rfl := Option.some.inj (resolved.symm.trans (occurrence?_of_mem_readable known index))
  have printed := enumerated.label_opening telling present inside
  refine ⟨text, ⟨given, ?_, loaded⟩, long, masked ▸ within, ?_⟩
  · rw [← stands, index]
  · rw [← masked, take_slice source.tokens long]
    exact eq_ofTokens_of_mem_prints printed known index

theorem nodup_labels_conclusion :
    ((conclusion tally surroundings settings mask sources).report.groups.map
      (·.fingerprint)).Nodup := by
  have enumerated := enumerated_readable surroundings settings mask sources
  have distinct : ((Grouping.spanGroups (readable surroundings settings mask sources)
      (groupingOptions settings) (Grouping.tally settings.windowSize
        (readable surroundings settings mask sources)).buckets).map (·.key.fingerprint)).Nodup :=
    enumerated.nodup_labels telling
  rw [report_conclusion, Grouping.reportOf, Grouping.report, List.map_map]
  exact distinct

end Telling

/-- Where no two windows of a run with different tokens share a fingerprint, the label of every group
is the fingerprint of the first tokens of each of its occurrences, no two groups have one label, and
the report gives a group back when asked for its label. -/
theorem identified_run [Platform] (settings : CheckedSettings)
    (telling : Grouping.Telling settings.windowSize
      (readable surroundings settings settings.mask sources)) :
    ∃ outcome, run surroundings settings sources false = .ok outcome ∧
      Locates sources (located surroundings settings settings.mask sources) outcome.report ∧
      (∀ group ∈ located surroundings settings settings.mask sources, ∀ entry ∈ group.occurrences,
        Labelled surroundings settings.windowSize settings.mask sources group.fingerprint entry.1
          entry.2) ∧
      (outcome.report.groups.map (·.fingerprint)).Nodup ∧
      ∀ group ∈ outcome.report.groups, outcome.report.get? group.fingerprint = some group := by
  have distinct := nodup_labels_conclusion telling
  refine ⟨_, runBy_of_valid tally settings, locates_conclusion _ _ _ _, ?_, distinct, ?_⟩
  · intro group member entry listed
    exact labelled_of_mem_located telling member listed
  · intro group member
    exact Report.get?_of_mem distinct member

theorem telling_twoTexts :
    Grouping.Telling 1 (readable noFiles lonely Mask.standard twoTexts) := by
  unfold Grouping.Telling
  decide +kernel

-- The occurrences of the first group have grown beyond the window that labels it.
theorem identified_run_twoTexts :
    ∃ outcome, run noFiles lonely twoTexts false = .ok outcome ∧
      (∀ group ∈ located noFiles lonely Mask.standard twoTexts, ∀ entry ∈ group.occurrences,
        Labelled noFiles 1 Mask.standard twoTexts group.fingerprint entry.1 entry.2) ∧
      outcome.report.groups.length = 2 ∧
      (outcome.report.groups.map (·.fingerprint)).Nodup ∧
      ∀ group ∈ outcome.report.groups, outcome.report.get? group.fingerprint = some group := by
  obtain ⟨outcome, ran, placed, labelled, distinct, found⟩ :=
    @identified_run noFiles twoTexts _ ⟨lonely, Mask.standard, rfl, rfl⟩ telling_twoTexts
  refine ⟨outcome, ran, labelled, ?_, distinct, found⟩
  have count := congrArg List.length reported_lonely_twoTexts
  rw [reported, SpanGroup.lists, List.length_map] at count
  rw [placed.groups, located, List.length_map, List.length_map]
  exact count

end RepeatScan.Detection
