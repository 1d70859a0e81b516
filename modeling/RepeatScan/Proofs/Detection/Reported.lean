import RepeatScan.Proofs.Detection.Merged
import RepeatScan.Proofs.Grouping.Sequence

set_option autoImplicit false

/-! The report of a run and the input. Every span that a run reports has its occurrence in the
report, which names the source at that place of the input, and no span is left out. The occurrences
of a group and the groups themselves follow the order of the input, and no two occurrences start at
the same token. -/

namespace RepeatScan.Detection

variable {surroundings : Surroundings} {settings : Settings} {mask : Mask} {sources : List Source}

/-- An occurrence is what a report says of a span: it reaches from the start of the span to its
stop, in the source at the place of the input that the span names. -/
structure Reports (sources : List Source) (span : Span) (occurrence : Occurrence) : Prop where
  source : sources[span.source]?.map (·.id) = some occurrence.source
  start : occurrence.start = span.start
  stop : occurrence.stop = span.stop

private theorem forall₂_filterMap {Item Kept : Type} {Related : Item → Kept → Prop}
    {pick : Item → Option Kept} {items : List Item}
    (each : ∀ item ∈ items, ∃ kept, pick item = some kept ∧ Related item kept) :
    List.Forall₂ Related items (items.filterMap pick) := by
  induction items with
  | nil => exact List.Forall₂.nil
  | cons item later ih =>
      obtain ⟨kept, picked, related⟩ := each item List.mem_cons_self
      rw [List.filterMap_cons_some picked]
      exact List.Forall₂.cons related
        (ih fun other member => each other (List.mem_cons_of_mem item member))

/-- What holds of every reported span and of the occurrence it is resolved to holds all along the
report. -/
theorem forall₂_reported {Related : Span → Occurrence → Prop}
    (each : ∀ spans ∈ reported surroundings settings mask sources, ∀ span ∈ spans, ∃ occurrence,
      Grouping.occurrence? (readable surroundings settings mask sources) span = some occurrence ∧
        Related span occurrence) :
    List.Forall₂ (fun spans group => List.Forall₂ Related spans group.occurrences)
      (reported surroundings settings mask sources)
      (conclusion tally surroundings settings mask sources).report.groups := by
  change List.Forall₂ _ (List.map _ _) (List.map _ _)
  rw [List.forall₂_map_left_iff, List.forall₂_map_right_iff]
  apply List.forall₂_same.mpr
  intro group member
  exact forall₂_filterMap (each group.spans (List.mem_map.mpr ⟨group, member, rfl⟩))

/-- A readable source is the masked text of the source at its place of the input. -/
theorem given_of_mem_readable {found : ScannedSource}
    (member : found ∈ readable surroundings settings mask sources) :
    ∃ given text, sources[found.index]? = some given ∧
      given.origin.load surroundings.files = .ok text ∧ found.id = given.id ∧
        found.tokens = mask.tokenStream text := by
  obtain ⟨entry, listed, result⟩ := mem_readable.mp member
  obtain ⟨text, loaded, rfl⟩ := scan_eq_ok_iff.mp result
  exact ⟨entry.1, text, List.mem_zipIdx_iff_getElem?.mp listed, loaded, rfl, rfl⟩

/-- The source at a position of the input has a text. -/
def TextAt (surroundings : Surroundings) (sources : List Source) (position : Nat) (text : Text) :
    Prop :=
  ∃ given, sources[position]? = some given ∧ given.origin.load surroundings.files = .ok text

theorem TextAt.exists_readable {position : Nat} {text : Text}
    (stands : TextAt surroundings sources position text) (settings : Settings) (mask : Mask) :
    ∃ found ∈ readable surroundings settings mask sources,
      found.index = position ∧ found.tokens = mask.tokenStream text := by
  obtain ⟨given, listed, loaded⟩ := stands
  exact ⟨_, mem_readable.mpr ⟨(given, position), List.mem_zipIdx_iff_getElem?.mpr listed,
    scan_eq_ok_iff.mpr ⟨text, loaded, rfl⟩⟩, rfl, rfl⟩

theorem source_of_mem_reported {spans : List Span}
    (member : spans ∈ reported surroundings settings mask sources) {span : Span}
    (inside : span ∈ spans) :
    ∃ found ∈ readable surroundings settings mask sources, found.index = span.source := by
  rw [reported_eq] at member
  exact (enumerated_readable surroundings settings mask sources).source_of_mem_spanGroups member
    inside

theorem occurrence?_of_mem_readable {found : ScannedSource}
    (member : found ∈ readable surroundings settings mask sources) {span : Span}
    (index : found.index = span.source) :
    Grouping.occurrence? (readable surroundings settings mask sources) span =
      some ⟨found.id, span.start, span.stop, found.tokens.lineRange span.start span.stop⟩ := by
  rw [Grouping.occurrence?, ← index,
    Grouping.source?_eq_some (distinct_readable surroundings settings mask sources) member]
  rfl

theorem reports_of_mem_reported {spans : List Span}
    (member : spans ∈ reported surroundings settings mask sources) {span : Span}
    (inside : span ∈ spans) :
    ∃ occurrence,
      Grouping.occurrence? (readable surroundings settings mask sources) span = some occurrence ∧
        Reports sources span occurrence := by
  obtain ⟨found, known, index⟩ := source_of_mem_reported member inside
  obtain ⟨given, text, stands, _, id, _⟩ := given_of_mem_readable known
  refine ⟨_, occurrence?_of_mem_readable known index, ?_, rfl, rfl⟩
  rw [← index, stands, id]
  rfl

/-- A group of a report whose occurrences come with the positions of their sources in the input. -/
structure Located where
  fingerprint : Fingerprint
  occurrences : List (Nat × Occurrence)

def Located.group (located : Located) : Group :=
  ⟨located.fingerprint, located.occurrences.map (·.2)⟩

/-- The groups of a run with the positions of their sources. -/
def located (surroundings : Surroundings) (settings : Settings) (mask : Mask)
    (sources : List Source) : List Located :=
  (Grouping.spanGroups (readable surroundings settings mask sources) (groupingOptions settings)
    (tally settings (readable surroundings settings mask sources)).buckets).map fun group =>
      ⟨group.key.fingerprint, group.spans.filterMap fun span =>
        (Grouping.occurrence? (readable surroundings settings mask sources) span).map
          fun occurrence => (span.source, occurrence)⟩

/-- The groups are those of a report, and the positions are those of the sources that it names. -/
structure Locates (sources : List Source) (placed : List Located) (report : Report) : Prop where
  groups : report.groups = placed.map Located.group
  source : ∀ group ∈ placed, ∀ entry ∈ group.occurrences,
    sources[entry.1]?.map (·.id) = some entry.2.source

theorem locates_conclusion (surroundings : Surroundings) (settings : Settings) (mask : Mask)
    (sources : List Source) :
    Locates sources (located surroundings settings mask sources)
      (conclusion tally surroundings settings mask sources).report where
  groups := by
    unfold located
    rw [List.map_map]
    apply List.map_congr_left
    intro group _
    refine congrArg (Group.mk group.key.fingerprint) ?_
    change _ = List.map _ (List.filterMap _ group.spans)
    rw [List.map_filterMap]
    apply List.filterMap_congr
    intro span _
    rw [Option.map_map]
    exact Option.map_id'.symm
  source := by
    intro placed member entry listed
    obtain ⟨group, present, rfl⟩ := List.mem_map.mp member
    obtain ⟨span, inside, found⟩ := List.mem_filterMap.mp listed
    obtain ⟨occurrence, resolved, rfl⟩ := Option.map_eq_some_iff.mp found
    have spans : group.spans ∈ reported surroundings settings mask sources :=
      List.mem_map.mpr ⟨group, present, rfl⟩
    obtain ⟨other, again, reports⟩ := reports_of_mem_reported spans inside
    obtain rfl := Option.some.inj (resolved.symm.trans again)
    exact reports.source

/-- Whatever the options are, the report of a run is in the order of the input: within a group the
occurrences increase by source and start, the groups increase by their first occurrences, none is
empty, and no two occurrences of the report start at the same token of the same source. -/
theorem sequenced_run [Platform] (settings : CheckedSettings) :
    ∃ outcome, run surroundings settings sources false = .ok outcome ∧
      List.Forall₂ (fun spans group => List.Forall₂ (Reports sources) spans group.occurrences)
        (reported surroundings settings settings.mask sources) outcome.report.groups ∧
      Span.Sequenced (reported surroundings settings settings.mask sources) := by
  refine ⟨_, runBy_of_valid tally settings, ?_, ?_⟩
  · exact forall₂_reported fun _ member _ inside => reports_of_mem_reported member inside
  · rw [reported_eq]
    exact (enumerated_readable surroundings settings settings.mask sources).sequenced_spanGroups

/-- When contents are compared and spans merged, the reported spans are found without fingerprints.
-/
theorem reported_eq_grownHeads (verified : settings.verifyContent = true)
    (merging : settings.mergeOverlaps = true) :
    reported surroundings settings mask sources =
      Span.grownHeads (Place.mergedClasses (max 1 settings.minOccurrences) settings.windowSize
        (readable surroundings settings mask sources)) := by
  have enumerated := enumerated_readable surroundings settings mask sources
  have increasing := index_readable_increasing surroundings settings mask sources
  have chosen : (groupingOptions settings).mergeOverlaps = true := merging
  rw [reported_eq, enumerated.lists_spanGroups, if_pos chosen,
    Place.lists_orderedGroups_of_merge enumerated increasing verified merging]
  rfl

/-- Settings for windows of a single token that need no second place. -/
def lonely : Settings :=
  { Settings.standard with windowSize := 1, minOccurrences := 0 }

theorem reported_lonely_twoTexts :
    reported noFiles lonely Mask.standard twoTexts = [[⟨0, 0, 2⟩, ⟨1, 1, 3⟩], [⟨1, 0, 1⟩]] := by
  rw [reported_eq_grownHeads rfl rfl]
  decide +kernel

-- The second group starts before the last occurrence of the first one.
theorem sequenced_run_twoTexts :
    ∃ outcome, run noFiles lonely twoTexts false = .ok outcome ∧
      List.Forall₂ (fun spans group => List.Forall₂ (Reports twoTexts) spans group.occurrences)
        [[⟨0, 0, 2⟩, ⟨1, 1, 3⟩], [⟨1, 0, 1⟩]] outcome.report.groups ∧
      Span.Sequenced [[⟨0, 0, 2⟩, ⟨1, 1, 3⟩], [⟨1, 0, 1⟩]] := by
  rw [← reported_lonely_twoTexts]
  exact @sequenced_run noFiles twoTexts _ ⟨lonely, Mask.standard, rfl, rfl⟩

end RepeatScan.Detection
