import RepeatScan.Proofs.Detection.Reported
import RepeatScan.Proofs.Grouping.Bounds
import RepeatScan.Proofs.Mask.Numbers

set_option autoImplicit false

/-! The ranges of a report are real. Every occurrence lies inside the tokens of its source, is as
long as a window at least, and stands on the lines of its first and its last token, which are lines
of the text. On the way nothing is cut off and nothing left out: every window that is compared lies
inside a source that is known. -/

namespace RepeatScan.Detection

variable {surroundings : Surroundings} {settings : Settings} {mask : Mask} {sources : List Source}

/-- An occurrence is a range of tokens of a text, a window long at least, with the lines on which
its first and its last token stand. Numbers of lines have 32 bits, so they are those of the text
unless it has too many lines. -/
structure StandsIn (size : Nat) (mask : Mask) (text : Text) (occurrence : Occurrence) : Prop where
  long : occurrence.start + size ≤ occurrence.stop
  within : occurrence.stop ≤ (mask.tokenStream text).length
  first : (mask.tokenStream text).lineOf? occurrence.start = some occurrence.lines.first
  last : (mask.tokenStream text).lineOf? (occurrence.stop - 1) = some occurrence.lines.last
  numbered : (Text.lines text).length < UInt32.size →
    1 ≤ occurrence.lines.first ∧ occurrence.lines.first ≤ occurrence.lines.last ∧
      occurrence.lines.last ≤ (Text.lines text).length

theorem standsIn_of_fits {size : Nat} (positive : 0 < size) {found : ScannedSource} {text : Text}
    (masked : found.tokens = mask.tokenStream text) {span : Span}
    (fits : Grouping.Fits size found span) :
    StandsIn size mask text
      ⟨found.id, span.start, span.stop, found.tokens.lineRange span.start span.stop⟩ := by
  obtain ⟨long, within⟩ := fits
  rw [masked] at within ⊢
  have inhabited : span.start < span.stop := by omega
  obtain ⟨first, last⟩ := TokenStream.lineOf?_lineRange inhabited within
  exact ⟨long, within, first, last, fun few => Mask.lineRange_tokenStream few inhabited within⟩

/-- Every span that is reported is resolved to an occurrence that stands in the text of its source.
-/
theorem standsIn_of_mem_reported (positive : 0 < settings.windowSize) {spans : List Span}
    (member : spans ∈ reported surroundings settings mask sources) {span : Span}
    (inside : span ∈ spans) :
    ∃ occurrence,
      Grouping.occurrence? (readable surroundings settings mask sources) span = some occurrence ∧
        ∃ given text, sources[span.source]? = some given ∧
          given.origin.load surroundings.files = .ok text ∧ occurrence.source = given.id ∧
            StandsIn settings.windowSize mask text occurrence := by
  obtain ⟨found, known, index⟩ := source_of_mem_reported member inside
  obtain ⟨given, text, stands, loaded, id, masked⟩ := given_of_mem_readable known
  rw [reported_eq] at member
  have fits := (enumerated_readable surroundings settings mask sources).fits_of_mem_spanGroups
    member inside known index
  rw [index] at stands
  exact ⟨_, occurrence?_of_mem_readable known index, given, text, stands, loaded, id,
    standsIn_of_fits positive masked fits⟩

/-- Every occurrence of a report stands in the text of the source it names, every reported span has
one, and every window that is looked at lies inside a known source. -/
theorem bounds_run [Platform] (settings : CheckedSettings) :
    ∃ outcome, run surroundings settings sources false = .ok outcome ∧
      List.Forall₂ (fun spans group => List.Forall₂ (fun span occurrence =>
          ∃ given text, sources[span.source]? = some given ∧
            given.origin.load surroundings.files = .ok text ∧ occurrence.source = given.id ∧
              StandsIn settings.windowSize settings.mask text occurrence) spans group.occurrences)
        (reported surroundings settings settings.mask sources) outcome.report.groups ∧
      ∀ bucket ∈ (tally settings (readable surroundings settings settings.mask sources)).buckets,
        ∀ window ∈ bucket.windows, ∃ source,
          Grouping.source? (readable surroundings settings settings.mask sources) window.source =
              some source ∧
            window.stop ≤ source.tokens.length := by
  refine ⟨_, runBy_of_valid tally settings, ?_, ?_⟩
  · exact forall₂_reported fun _ member _ inside =>
      standsIn_of_mem_reported settings.windowSize_pos member inside
  · intro bucket present window inside
    rw [buckets_tally] at present
    exact (enumerated_readable surroundings settings settings.mask sources).source_of_mem_bucket
      present inside

/-- Two texts that share two tokens, with comments and line ends between them. -/
def commentedTexts : List Source :=
  [⟨['a'], .text "1 /* 9\n */ 2".toList⟩, ⟨['b'], .text "0\n1\n# 3\n2".toList⟩]

theorem reported_lonely_commentedTexts :
    reported noFiles lonely Mask.standard commentedTexts =
      [[⟨0, 0, 2⟩, ⟨1, 1, 3⟩], [⟨1, 0, 1⟩]] := by
  rw [reported_eq_grownHeads rfl rfl]
  decide +kernel

theorem bounds_run_commentedTexts :
    ∃ outcome, run noFiles lonely commentedTexts false = .ok outcome ∧
      ∃ group ∈ outcome.report.groups, ∃ occurrence ∈ group.occurrences,
        occurrence.source = ['b'] ∧
          StandsIn 1 Mask.standard "0\n1\n# 3\n2".toList occurrence ∧
          1 ≤ occurrence.lines.first ∧ occurrence.lines.first ≤ occurrence.lines.last ∧
          occurrence.lines.last ≤ 4 := by
  obtain ⟨outcome, ran, placed, _⟩ :=
    @bounds_run noFiles commentedTexts _ ⟨lonely, Mask.standard, rfl, rfl⟩
  rw [reported_lonely_commentedTexts] at placed
  obtain ⟨group, _, members, _, groups⟩ := List.forall₂_cons_left_iff.mp placed
  obtain ⟨_, _, _, later, occurrences⟩ := List.forall₂_cons_left_iff.mp members
  obtain ⟨occurrence, _, ⟨given, text, stands, loaded, id, standsIn⟩, _, rest⟩ :=
    List.forall₂_cons_left_iff.mp later
  obtain rfl := Option.some.inj stands
  obtain rfl := Except.ok.inj loaded
  refine ⟨outcome, ran, group, ?_, occurrence, ?_, id, standsIn, standsIn.numbered (by decide)⟩
  · rw [groups]
    exact List.mem_cons_self
  · rw [occurrences, rest]
    exact List.mem_cons_of_mem _ List.mem_cons_self

end RepeatScan.Detection
