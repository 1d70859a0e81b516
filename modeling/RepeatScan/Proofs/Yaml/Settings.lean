import RepeatScan.Proofs.Yaml.Records

set_option autoImplicit false

/-! Settings read back from YAML. Main statement: the file that is written for settings is read as the
settings if they can be used, and else fails with their first fault, whatever their texts look like. -/

namespace RepeatScan

/-! ### Settings in files -/

namespace Settings

/-- Settings whose numbers are words of 64 bits. -/
structure InWords (settings : Settings) : Prop where
  windowSize : settings.windowSize < UInt64.size
  minOccurrences : settings.minOccurrences < UInt64.size
  maxWorkers : ∀ workers ∈ settings.maxWorkers, workers < UInt64.size

end Settings

namespace SettingsPatch

/-- A patch whose numbers are words of 64 bits. -/
structure InWords (patch : SettingsPatch) : Prop where
  windowSize : ∀ size ∈ patch.windowSize, size < UInt64.size
  minOccurrences : ∀ count ∈ patch.minOccurrences, count < UInt64.size
  maxWorkers : ∀ workers ∈ patch.maxWorkers, workers < UInt64.size

theorem inWords_ofSettings {settings : Settings} (inWords : settings.InWords) :
    (ofSettings settings).InWords := by
  refine ⟨?_, ?_, inWords.maxWorkers⟩
  · rintro _ ⟨⟩
    exact inWords.windowSize
  · rintro _ ⟨⟩
    exact inWords.minOccurrences

theorem ofSettings_ne_empty (settings : Settings) : ofSettings settings ≠ .empty :=
  fun same => nomatch congrArg windowSize same

/-- The patch with all fields of some settings makes them of any others that share all their
workers. -/
theorem apply_ofSettings {base : Settings} (shared : base.maxWorkers = none) (settings : Settings) :
    (ofSettings settings).apply base = settings := by
  cases settings
  simp [apply, ofSettings, shared]

end SettingsPatch

theorem SettingsFile.settings_ofSettings (settings : Settings) :
    (ofSettings settings).settings = settings.check := by
  have whole : (SettingsPatch.ofSettings settings).apply (.ofPreset .standard) = settings :=
    SettingsPatch.apply_ofSettings rfl settings
  have asked : (ofSettings settings).settings =
      ((SettingsPatch.ofSettings settings).apply (.ofPreset .standard)).check := rfl
  rw [asked, whole]

namespace Yaml

/-! ### Patches and files -/

theorem readPatch_ofPatch {patch : SettingsPatch} (inWords : patch.InWords) :
    (ofPatch patch).ReadAs Node.readPatch patch := by
  have numbers {value : Option Nat} (small : ∀ number ∈ value, number < UInt64.size) :
      ∀ number ∈ value, (ofNat number).ReadAs (Node.readNat UInt64.size) number :=
    fun number given => Value.readAs_ofNat (small number given)
  have words {value : Option Bool} : ∀ given ∈ value, (ofBool given).ReadAs Node.readBool given :=
    fun given _ => Value.readAs_ofBool given
  have fills : Fills patchFields
      (givenField "window_size" ofNat patch.windowSize ++
        (givenField "min_occurrences" ofNat patch.minOccurrences ++
          (givenField "comment_markers" .texts patch.commentMarkers ++
            (givenField "strip_block_comments" ofBool patch.stripBlocks ++
              (givenField "placeholder" .text patch.placeholder ++
                (givenField "merge_overlapping" ofBool patch.mergeOverlaps ++
                  (givenField "verify_content" ofBool patch.verifyContent ++
                    (givenField "streaming" ofBool patch.streaming ++
                      (givenField "max_workers" ofNat patch.maxWorkers ++ [])))))))))
      .empty patch :=
    .givenField (numbers inWords.windowSize) rfl
      (.givenField (numbers inWords.minOccurrences) rfl
        (.givenField (fun given _ => Value.readAs_texts given) rfl
          (.givenField words rfl
            (.givenField (fun given _ => Value.readAs_text given) rfl
              (.givenField words rfl
                (.givenField words rfl
                  (.givenField words rfl
                    (.givenField (numbers inWords.maxWorkers) rfl .nil))))))))
  have read := Node.readRecord_record (by decide) fills
  simp only [List.append_nil, ← List.append_assoc] at read
  rw [Value.ReadAs, ofPatch]
  exact congrArg (Option.map some) read

theorem readFile_fieldsOfFile {file : SettingsFile}
    (version : ∀ number ∈ file.version, number < UInt32.size)
    (overrides : ∀ patch ∈ file.overrides, patch.InWords) :
    (Value.record (fieldsOfFile file)).node.readFile = some file := by
  have fills : Fills fileFields
      (givenField "version" ofNat file.version ++ (givenField "preset" .text file.preset ++
        (givenField "overrides" ofPatch file.overrides ++ [])))
      emptyFile file :=
    .givenField (fun number given => Value.readAs_ofNat (version number given)) rfl
      (.givenField (fun given _ => Value.readAs_text given) rfl
        (.givenField (fun patch given => readPatch_ofPatch (overrides patch given)) rfl .nil))
  have read := Node.readRecord_record (by decide) fills
  simp only [List.append_nil, ← List.append_assoc] at read
  exact read

theorem writable_ofPatch {patch : SettingsPatch} (given : patch ≠ .empty) :
    (ofPatch patch).Writable := by
  have numbers (value : Option Nat) : ∀ number ∈ value, (ofNat number).Writable :=
    fun number _ => writable_ofNat number
  have words (value : Option Bool) : ∀ word ∈ value, (ofBool word).Writable :=
    fun word _ => writable_ofBool word
  refine .record (fun none_given => given ?_) ?_
  · simp only [List.append_eq_nil_iff, givenField_eq_nil] at none_given
    cases patch
    simpa [SettingsPatch.empty, and_assoc] using none_given
  · rw [← List.append_nil (givenField "max_workers" _ _)]
    simp only [List.append_assoc]
    exact writableFields_givenField (by decide) (numbers _)
      (writableFields_givenField (by decide) (numbers _)
        (writableFields_givenField (by decide) (fun items _ => .texts items)
          (writableFields_givenField (by decide) (words _)
            (writableFields_givenField (by decide) (fun content _ => .text content)
              (writableFields_givenField (by decide) (words _)
                (writableFields_givenField (by decide) (words _)
                  (writableFields_givenField (by decide) (words _)
                    (writableFields_givenField (by decide) (numbers _) .nil))))))))

theorem writableFields_fieldsOfFile {file : SettingsFile}
    (given : ∀ patch ∈ file.overrides, patch ≠ .empty) :
    Value.WritableFields (fieldsOfFile file) := by
  rw [fieldsOfFile, ← List.append_nil (givenField "overrides" _ _)]
  simp only [List.append_assoc]
  exact writableFields_givenField (by decide) (fun number _ => writable_ofNat number)
    (writableFields_givenField (by decide) (fun content _ => .text content)
      (writableFields_givenField (by decide)
        (fun patch listed => writable_ofPatch (given patch listed)) .nil))

/-- A file is read back from its text, if no patch in it is empty. -/
theorem file?_writeFile {file : SettingsFile}
    (version : ∀ number ∈ file.version, number < UInt32.size)
    (overrides : ∀ patch ∈ file.overrides, patch.InWords)
    (given : ∀ patch ∈ file.overrides, patch ≠ .empty) : file? (writeFile file) = some file := by
  by_cases inhabited : fieldsOfFile file = []
  · have written : writeFile file = [] := by
      rw [writeFile, inhabited]
      rfl
    have nothing : file = emptyFile := by
      simp only [fieldsOfFile, List.append_eq_nil_iff, givenField_eq_nil] at inhabited
      cases file
      simpa [emptyFile, and_assoc] using inhabited
    rw [written, nothing]
    rfl
  · have document := document?_fieldLines (writableFields_fieldsOfFile given) inhabited
    have read := readFile_fieldsOfFile version overrides
    simp [file?, writeFile, document, read]

/-! ### Settings -/

/-- Settings that can be used are read back from the text that is written for them, and settings that
cannot be used fail to be read, with the fault that they have. -/
theorem readSettings_writeSettings {settings : Settings} (inWords : settings.InWords) :
    (settings.fault? = none → readSettings (writeSettings settings) = .ok settings) ∧
      ∀ fault, settings.fault? = some fault →
        readSettings (writeSettings settings) = .error fault := by
  have read : file? (writeSettings settings) = some (.ofSettings settings) := by
    refine file?_writeFile ?_ ?_ ?_
    · rintro _ ⟨⟩
      decide
    · rintro _ ⟨⟩
      exact SettingsPatch.inWords_ofSettings inWords
    · rintro _ ⟨⟩
      exact SettingsPatch.ofSettings_ne_empty settings
  have whole : readSettings (writeSettings settings) = settings.check := by
    rw [readSettings, read]
    exact SettingsFile.settings_ofSettings settings
  rw [whole, Settings.check]
  refine ⟨fun faultless => ?_, fun fault found => ?_⟩
  · rw [faultless]
  · rw [found]

/-- Settings whose texts look like words for nothing, numbers, truth values and marks. -/
def lookalike : Settings :=
  { Settings.standard with
    commentMarkers := ["null".toList, "~".toList, "007".toList, "a:".toList, "-".toList,
      "'\"".toList, "yes".toList, "|".toList]
    placeholder := "1e3".toList
    maxWorkers := some 1024 }

theorem readSettings_writeSettings_lookalike :
    readSettings (writeSettings lookalike) = .ok lookalike ∧
      readSettings (writeSettings { lookalike with placeholder := "true\nfalse".toList }) =
        .error (.unusable "placeholder".toList
          "placeholder must be non-empty and contain no whitespace".toList) := by
  have workers : ∀ workers ∈ some 1024, workers < UInt64.size := by
    rintro _ ⟨⟩
    decide
  exact ⟨(readSettings_writeSettings ⟨by decide, by decide, workers⟩).1 (by decide),
    (readSettings_writeSettings ⟨by decide, by decide, workers⟩).2 _ (by decide)⟩

end Yaml

end RepeatScan
