import RepeatScan.Proofs.Detection.Bounds
import RepeatScan.Proofs.Output.Pairs
import RepeatScan.Proofs.Output.Snippet

set_option autoImplicit false

/-! Snippets of a run. Every occurrence in a file stands on lines that the file has, so its snippet is
never cut off and never missing; it shows the passage of the occurrence, with the line breaks between its
lines all spelled alike. -/

namespace RepeatScan.Detection

variable {surroundings : Surroundings} {settings : Settings} {mask : Mask} {sources : List Source}

/-! ### Occurrences in files -/

/-- The occurrences of a report are those that the reported spans are resolved to. -/
theorem mem_report_iff {occurrence : Occurrence} :
    (∃ group ∈ (conclusion tally surroundings settings mask sources).report.groups,
        occurrence ∈ group.occurrences) ↔
      ∃ spans ∈ reported surroundings settings mask sources, ∃ span ∈ spans,
        Grouping.occurrence? (readable surroundings settings mask sources) span =
          some occurrence := by
  have same : some occurrence ∈ ((conclusion tally surroundings settings mask sources).report.groups.map
      fun group => group.occurrences.map some).flatten ↔ _ :=
    iff_of_eq (congrArg (some occurrence ∈ List.flatten ·)
      (occurrences_reported surroundings settings mask sources))
  simpa using same

theorem exists_group_of_reported [Platform] (settings : CheckedSettings) {outcome : Outcome}
    (ran : run surroundings settings sources false = .ok outcome) {spans : List Span}
    (member : spans ∈ reported surroundings settings settings.mask sources) {span : Span}
    (inside : span ∈ spans) {occurrence : Occurrence}
    (resolved : Grouping.occurrence? (readable surroundings settings settings.mask sources) span =
      some occurrence) :
    ∃ group ∈ outcome.report.groups, occurrence ∈ group.occurrences := by
  obtain rfl := Except.ok.inj (ran.symm.trans (runBy_of_valid tally settings))
  exact mem_report_iff.mpr ⟨spans, member, span, inside, resolved⟩

/-- Whether the sources with an identifier are the file with this path. -/
def NamesFile (sources : List Source) (path : Text) : Prop :=
  ∀ given ∈ sources, given.id = path → given = .ofPath path

theorem namesFile_ofPath (paths : List Text) (path : Text) :
    NamesFile (paths.map .ofPath) path := by
  intro given member same
  obtain ⟨other, _, rfl⟩ := List.mem_map.mp member
  exact congrArg Source.ofPath same

/-- A file that a run has read is read again when snippets are made. -/
theorem readText_of_load {files : FileTree} {path text : Text}
    (loaded : Origin.load files (.path path) = .ok text) : files.readText path = .ok text := by
  simp only [Origin.load, SourceError.decode] at loaded
  unfold FileTree.readText
  cases content : files.read path with
  | error failure =>
      rw [content] at loaded
      cases loaded
  | ok bytes =>
      rw [content] at loaded
      dsimp only at loaded ⊢
      cases decoded : Utf8.decode bytes with
      | error count =>
          rw [decoded] at loaded
          cases loaded
      | ok found =>
          rw [decoded] at loaded
          obtain rfl := Except.ok.inj loaded
          rfl

theorem inText_of_standsIn {size : Nat} {text : Text} {occurrence : Occurrence}
    (stands : StandsIn size mask text occurrence) (few : (Text.lines text).length < UInt32.size) :
    Snippet.InText occurrence.lines text := by
  obtain ⟨least, ordered, within⟩ := stands.numbered few
  exact ⟨least, ordered, Nat.le_trans within (Snippet.length_textLines_le text)⟩

theorem inText_of_mem_report (positive : 0 < settings.windowSize) {group : Group}
    (listed : group ∈ (conclusion tally surroundings settings mask sources).report.groups)
    {occurrence : Occurrence} (member : occurrence ∈ group.occurrences)
    (named : NamesFile sources occurrence.source) :
    ∃ text, surroundings.files.readText occurrence.source = .ok text ∧
      ((Text.lines text).length < UInt32.size → Snippet.InText occurrence.lines text) := by
  obtain ⟨spans, present, span, inside, resolved⟩ := mem_report_iff.mp ⟨group, listed, member⟩
  obtain ⟨other, again, given, text, stands, loaded, id, standsIn⟩ :=
    standsIn_of_mem_reported positive present inside
  obtain rfl := Option.some.inj (again.symm.trans resolved)
  have file := named given (List.mem_of_getElem? stands) id.symm
  rw [file] at loaded
  exact ⟨text, readText_of_load loaded, inText_of_standsIn standsIn⟩

theorem ofOccurrence_of_readText {files : FileTree} {occurrence : Occurrence} {text : Text}
    (found : files.readText occurrence.source = .ok text) :
    Snippet.ofOccurrence files occurrence = Snippet.ofText occurrence.lines text := by
  unfold Snippet.ofOccurrence
  rw [found]
  rfl

/-! ### Lines of snippets -/

/-- Reports and snippets number lines alike. The lines of an occurrence in a file are lines that the
snippet is taken from, none of them cut off; and the number of a masked line is that of the entry it was
made of. -/
theorem snippets_run [Platform] (settings : CheckedSettings) :
    ∃ outcome, run surroundings settings sources false = .ok outcome ∧
      (∀ group ∈ outcome.report.groups, ∀ occurrence ∈ group.occurrences,
        NamesFile sources occurrence.source →
          ∃ text, surroundings.files.readText occurrence.source = .ok text ∧
            ((Text.lines text).length < UInt32.size →
              Snippet.InText occurrence.lines text ∧
                Snippet.ofOccurrence surroundings.files occurrence =
                  some ((Snippet.lineEnding text).intercalate (((Snippet.lines text).take
                    occurrence.lines.last).drop (occurrence.lines.first - 1))))) ∧
      ∀ text, (Text.lines text).length < UInt32.size →
        ∀ line ∈ settings.mask.maskLines text, Snippet.ShowsEntry settings.mask text line := by
  refine ⟨_, runBy_of_valid tally settings, ?_, ?_⟩
  · intro group listed occurrence member named
    obtain ⟨text, found, inText⟩ :=
      inText_of_mem_report settings.windowSize_pos listed member named
    refine ⟨text, found, fun few => ⟨inText few, ?_⟩⟩
    rw [ofOccurrence_of_readText found]
    exact (inText few).ofText_eq
  · exact fun _ few _ member => Snippet.showsEntry_of_valid settings few member

/-- A tree with a text in two files. -/
def twins (text : Text) : FileTree :=
  ⟨.folder [(['a'], .file (Utf8.encode text)), (['b'], .file (Utf8.encode text))], []⟩

def twinSources : List Source :=
  [['a'], ['b']].map .ofPath

/-- The standard settings for windows of three tokens. -/
def threes : Settings :=
  { Settings.standard with windowSize := 3 }

/-- A text with a comment that goes over the end of a line. -/
def commented : Text := "a = /* 1\r\n*/ 2\n".toList

theorem reported_commented :
    reported ⟨twins commented, 1⟩ threes Mask.standard twinSources =
      [[⟨0, 0, 3⟩, ⟨1, 0, 3⟩]] := by
  rw [reported_eq_grownHeads rfl rfl]
  decide +kernel

theorem occurrence?_commented :
    Grouping.occurrence? (readable ⟨twins commented, 1⟩ threes Mask.standard twinSources)
      ⟨0, 0, 3⟩ = some ⟨['a'], 0, 3, ⟨1, 2⟩⟩ := by
  decide +kernel

theorem readText_commented : (twins commented).readText ['a'] = .ok commented := by
  decide +kernel

theorem snippets_run_commented :
    ∃ outcome, run ⟨twins commented, 1⟩ threes twinSources false = .ok outcome ∧
      (∃ group ∈ outcome.report.groups, ⟨['a'], 0, 3, ⟨1, 2⟩⟩ ∈ group.occurrences ∧
        Snippet.InText ⟨1, 2⟩ commented ∧
        Snippet.ofOccurrence (twins commented) ⟨['a'], 0, 3, ⟨1, 2⟩⟩ =
          some "a = /* 1\r\n*/ 2".toList) ∧
      Mask.standard.maskLines commented = [⟨1, "VAR =".toList⟩, ⟨2, "2".toList⟩] ∧
      ∀ line ∈ Mask.standard.maskLines commented, Snippet.ShowsEntry Mask.standard commented line := by
  obtain ⟨outcome, ran, snippets, entries⟩ :=
    @snippets_run ⟨twins commented, 1⟩ twinSources _ ⟨threes, Mask.standard, rfl, rfl⟩
  obtain ⟨group, listed, member⟩ := exists_group_of_reported ⟨threes, Mask.standard, rfl, rfl⟩ ran
    (by rw [reported_commented]; exact List.mem_cons_self) List.mem_cons_self occurrence?_commented
  obtain ⟨text, found, shown⟩ := snippets group listed _ member (namesFile_ofPath _ _)
  obtain rfl := Except.ok.inj (readText_commented.symm.trans found)
  have few : (Text.lines commented).length < UInt32.size := by decide
  obtain ⟨inText, same⟩ := shown few
  refine ⟨outcome, ran, ⟨group, listed, member, inText, same.trans ?_⟩, ?_, entries commented few⟩
  · decide
  · decide +kernel

/-! ### Passages -/

/-- What the field of the snippet of an occurrence is read as. -/
def readSnippet (files : FileTree) (occurrence : Occurrence) : Except Json.ReadError Text :=
  Json.decode Json.Node.readText (Pairs.snippetField (Snippet.ofOccurrence files) [occurrence])

theorem readSnippet_of_some {files : FileTree} {occurrence : Occurrence} {snippet : Text}
    (given : Snippet.ofOccurrence files occurrence = some snippet) :
    readSnippet files occurrence = .ok snippet := by
  have field : Pairs.snippetField (Snippet.ofOccurrence files) [occurrence] =
      Pairs.literal snippet := by
    unfold Pairs.snippetField
    rw [List.head?_cons, Option.bind_some, given]
    rfl
  rw [readSnippet, field]
  exact (Pairs.body_literalBody snippet).decode_literal

/-- The snippet of an occurrence and its passage, which is the only one on its lines. They differ in
carriage returns at most, and do so in two cases: when a newline without one stands in the passage but one
with it in the text, and when the passage ends the text with a carriage return. -/
structure ShowsPassage (files : FileTree) (occurrence : Occurrence) (text snippet passage : Text) :
    Prop where
  read : readSnippet files occurrence = .ok snippet
  stands : ∀ found,
    Text.IsPassage occurrence.lines.first occurrence.lines.last text found ↔ found = passage
  alike : snippet.filter (· ≠ '\r') = passage.filter (· ≠ '\r')
  same : snippet = passage ↔
    ¬ (Snippet.hasReturnBreak text = true ∧ Snippet.hasBareBreak passage = true) ∧
      ¬ (occurrence.lines.last = (Snippet.lines text).length ∧ passage.getLast? = some '\r')

theorem showsPassage_of_inText {files : FileTree} {occurrence : Occurrence} {text : Text}
    (found : files.readText occurrence.source = .ok text)
    (inText : Snippet.InText occurrence.lines text) :
    ShowsPassage files occurrence text
      ((Snippet.lineEnding text).intercalate
        (((Snippet.lines text).take occurrence.lines.last).drop (occurrence.lines.first - 1)))
      (Text.passage occurrence.lines.first occurrence.lines.last text) where
  read := by
    apply readSnippet_of_some
    rw [ofOccurrence_of_readText found]
    exact inText.ofText_eq
  stands _ := inText.isPassage_iff
  alike := inText.filter_eq_passage
  same := inText.eq_passage_iff

/-- Every occurrence in a file stands on lines that the file has, and what its snippet is read as is the
passage there, but for carriage returns: snippets spell all line breaks alike and end without one. -/
theorem passages_run [Platform] (settings : CheckedSettings) :
    ∃ outcome, run surroundings settings sources false = .ok outcome ∧
      ∀ group ∈ outcome.report.groups, ∀ occurrence ∈ group.occurrences,
        NamesFile sources occurrence.source →
          ∃ text, surroundings.files.readText occurrence.source = .ok text ∧
            ((Text.lines text).length < UInt32.size → Snippet.InText occurrence.lines text) ∧
            (Snippet.InText occurrence.lines text → ∃ snippet passage,
              ShowsPassage surroundings.files occurrence text snippet passage) := by
  refine ⟨_, runBy_of_valid tally settings, ?_⟩
  intro group listed occurrence member named
  obtain ⟨text, found, inText⟩ :=
    inText_of_mem_report settings.windowSize_pos listed member named
  exact ⟨text, found, inText, fun inside => ⟨_, _, showsPassage_of_inText found inside⟩⟩

theorem isPassage_commented : Text.IsPassage 1 2 commented "a = /* 1\r\n*/ 2".toList :=
  ⟨[], ['\n'], [], by decide, Or.inl rfl, by decide, by decide, Or.inr (Or.inl ⟨rfl, by decide⟩)⟩

theorem passages_run_commented :
    ∃ outcome, run ⟨twins commented, 1⟩ threes twinSources false = .ok outcome ∧
      ∃ group ∈ outcome.report.groups, ⟨['a'], 0, 3, ⟨1, 2⟩⟩ ∈ group.occurrences ∧
        Text.IsPassage 1 2 commented "a = /* 1\r\n*/ 2".toList ∧
        readSnippet (twins commented) ⟨['a'], 0, 3, ⟨1, 2⟩⟩ =
          .ok "a = /* 1\r\n*/ 2".toList := by
  obtain ⟨outcome, ran, snippets⟩ :=
    @passages_run ⟨twins commented, 1⟩ twinSources _ ⟨threes, Mask.standard, rfl, rfl⟩
  obtain ⟨group, listed, member⟩ := exists_group_of_reported ⟨threes, Mask.standard, rfl, rfl⟩ ran
    (by rw [reported_commented]; exact List.mem_cons_self) List.mem_cons_self occurrence?_commented
  obtain ⟨text, found, inText, shown⟩ := snippets group listed _ member (namesFile_ofPath _ _)
  obtain rfl := Except.ok.inj (readText_commented.symm.trans found)
  obtain ⟨snippet, passage, shows⟩ := shown (inText (by decide))
  obtain rfl := (shows.stands _).mp isPassage_commented
  have same := shows.same.mpr ⟨by decide, by decide⟩
  exact ⟨outcome, ran, group, listed, member, isPassage_commented, same ▸ shows.read⟩

/-- A text with two kinds of line breaks. -/
def mixed : Text := "1\r\n2\n3".toList

/-- Snippets do not keep the line breaks of a file that has two kinds of them: here the bare newline is
given a carriage return. -/
theorem readSnippet_mixed_respelled :
    threes.check = .ok threes ∧ (twins mixed).readText ['a'] = .ok mixed ∧
      ∃ outcome, run ⟨twins mixed, 1⟩ threes twinSources false = .ok outcome ∧
        ∃ group ∈ outcome.report.groups, ∃ occurrence ∈ group.occurrences,
          occurrence = ⟨['a'], 0, 3, ⟨1, 3⟩⟩ ∧
            readSnippet (twins mixed) occurrence = .ok "1\r\n2\r\n3".toList ∧
            Text.IsPassage occurrence.lines.first occurrence.lines.last mixed mixed ∧
            ∀ found, Text.IsPassage occurrence.lines.first occurrence.lines.last mixed found →
              readSnippet (twins mixed) occurrence ≠ .ok found := by
  have known : reported ⟨twins mixed, 1⟩ threes Mask.standard twinSources =
      [[⟨0, 0, 3⟩, ⟨1, 0, 3⟩]] := by
    rw [reported_eq_grownHeads rfl rfl]
    decide +kernel
  have resolved : Grouping.occurrence?
      (readable ⟨twins mixed, 1⟩ threes Mask.standard twinSources) ⟨0, 0, 3⟩ =
        some ⟨['a'], 0, 3, ⟨1, 3⟩⟩ := by decide +kernel
  have given : (twins mixed).readText ['a'] = .ok mixed := by decide +kernel
  have ran : run ⟨twins mixed, 1⟩ threes twinSources false = .ok _ :=
    runBy_of_valid tally ⟨threes, Mask.standard, rfl, rfl⟩
  obtain ⟨group, listed, member⟩ := exists_group_of_reported ⟨threes, Mask.standard, rfl, rfl⟩ ran
    (by rw [known]; exact List.mem_cons_self) List.mem_cons_self resolved
  have read : readSnippet (twins mixed) ⟨['a'], 0, 3, ⟨1, 3⟩⟩ = .ok "1\r\n2\r\n3".toList := by
    apply readSnippet_of_some
    rw [ofOccurrence_of_readText given]
    decide
  refine ⟨rfl, given, _, ran, group, listed, _, member, rfl, read, ?_, ?_⟩
  · exact ⟨[], [], [], by decide, Or.inl rfl, by decide, by decide, Or.inr (Or.inr ⟨rfl, rfl⟩)⟩
  · intro found stands
    rw [Text.eq_passage_of_isPassage stands, read]
    decide

end RepeatScan.Detection
