import RepeatScan.Output.Csv
import RepeatScan.Proofs.Text.Digits

set_option autoImplicit false

/-! A reader of comma-separated values, character by character. Commas end fields and newlines end
records, with or without a carriage return before them; between quotes every character is text, and a
doubled quote stands for one. Main statement: from the output for a report it reads the names of the
fields and then one record for each occurrence. -/

namespace RepeatScan.Csv

/-! ### The reader -/

/-- Where a reader is: before a field, inside one, between quotes, behind a quote that may have ended
its field, or behind a carriage return that may end a line. -/
inductive Position where
  | start
  | bare
  | quoted
  | closing
  | ending
  deriving DecidableEq, Repr

/-- What is read so far: whole records, the whole fields of the record that is open, and the
characters of the field that is open. All of them stand last one first. -/
structure Reading where
  records : List (List Text)
  fields : List Text
  field : Text
  position : Position

namespace Reading

def initial : Reading := ⟨[], [], [], .start⟩

def addTo (reading : Reading) (character : Char) (position : Position) : Reading :=
  { reading with field := character :: reading.field, position := position }

def endField (reading : Reading) : Reading :=
  { reading with
    fields := reading.field.reverse :: reading.fields, field := [], position := .start }

def endRecord (reading : Reading) : Reading :=
  let ended := reading.endField
  ⟨ended.fields.reverse :: ended.records, [], [], .start⟩

/-- Goes on behind a field that may end here. -/
def between (reading : Reading) (character : Char) : Option Reading :=
  if character = ',' then some reading.endField
  else if character = '\n' then some reading.endRecord
  else if character = '\r' then some { reading with position := .ending }
  else none

/-- Goes on by a character. A quote may stand at the beginning of a field, which it opens, and in
fields that a quote has opened. -/
def step (reading : Reading) (character : Char) : Option Reading :=
  match reading.position with
  | .start =>
      if character = '"' then some { reading with position := .quoted }
      else (reading.between character).or (some (reading.addTo character .bare))
  | .bare =>
      if character = '"' then none
      else (reading.between character).or (some (reading.addTo character .bare))
  | .quoted =>
      if character = '"' then some { reading with position := .closing }
      else some (reading.addTo character .quoted)
  | .closing =>
      if character = '"' then some (reading.addTo character .quoted)
      else reading.between character
  | .ending => if character = '\n' then some reading.endRecord else none

/-- The records at the end of a text. The last of them need not end its line. -/
def finish (reading : Reading) : Option (List (List Text)) :=
  match reading.position with
  | .start =>
      if reading.fields.isEmpty then some reading.records.reverse
      else some reading.endRecord.records.reverse
  | .bare => some reading.endRecord.records.reverse
  | .closing => some reading.endRecord.records.reverse
  | .quoted => none
  | .ending => none

end Reading

/-- The records of a text, if it is one of comma-separated values. -/
def records? (text : Text) : Option (List (List Text)) :=
  (text.foldlM Reading.step .initial).bind Reading.finish

/-! ### Reading a field -/

/-- A field that is read as a content: the reader goes on to a place behind it where a comma or a
newline ends the field. -/
def ReadsAs (written content : Text) : Prop :=
  ∀ records fields, ∃ position, position ∈ [Position.start, .bare, .closing] ∧
    written.foldlM Reading.step ⟨records, fields, [], .start⟩ =
      some ⟨records, fields, content.reverse, position⟩

theorem isSpecial_iff {character : Char} :
    isSpecial character = true ↔
      character = ',' ∨ character = '"' ∨ character = '\n' ∨ character = '\r' := by
  simp [isSpecial, or_assoc]

/-- Characters that need no quotes are read as they stand. -/
theorem foldlM_bare {content : Text} (plain : ∀ character ∈ content, isSpecial character = false)
    (records : List (List Text)) (fields : List Text) (earlier : Text) :
    content.foldlM Reading.step ⟨records, fields, earlier, .bare⟩ =
      some ⟨records, fields, content.reverse ++ earlier, .bare⟩ := by
  induction content generalizing earlier with
  | nil => rfl
  | cons character later ih =>
      have first := plain character List.mem_cons_self
      have ordinary := mt isSpecial_iff.mpr (Bool.eq_false_iff.mp first)
      simp only [not_or] at ordinary
      have next : Reading.step ⟨records, fields, earlier, .bare⟩ character =
          some ⟨records, fields, character :: earlier, .bare⟩ := by
        simp [Reading.step, Reading.between, Reading.addTo, ordinary]
      rw [List.foldlM_cons, next]
      simpa using ih (fun other listed => plain other (List.mem_cons_of_mem _ listed))
        (character :: earlier)

theorem readsAs_bare {content : Text} (plain : ∀ character ∈ content, isSpecial character = false) :
    ReadsAs content content := by
  intro records fields
  cases content with
  | nil => exact ⟨.start, by decide, rfl⟩
  | cons character later =>
      have first := plain character List.mem_cons_self
      have ordinary := mt isSpecial_iff.mpr (Bool.eq_false_iff.mp first)
      simp only [not_or] at ordinary
      have next : Reading.step ⟨records, fields, [], .start⟩ character =
          some ⟨records, fields, [character], .bare⟩ := by
        simp [Reading.step, Reading.between, Reading.addTo, ordinary]
      refine ⟨.bare, by decide, ?_⟩
      rw [List.foldlM_cons, next]
      simpa using foldlM_bare (fun other listed => plain other (List.mem_cons_of_mem _ listed))
        records fields [character]

/-- Between quotes the reader takes every character for text, and two quotes for one. -/
theorem foldlM_doubled (content : Text) (records : List (List Text)) (fields : List Text)
    (earlier : Text) :
    (content.flatMap doubled).foldlM Reading.step ⟨records, fields, earlier, .quoted⟩ =
      some ⟨records, fields, content.reverse ++ earlier, .quoted⟩ := by
  induction content generalizing earlier with
  | nil => rfl
  | cons character later ih =>
      have next : (doubled character).foldlM Reading.step ⟨records, fields, earlier, .quoted⟩ =
          some ⟨records, fields, character :: earlier, .quoted⟩ := by
        unfold doubled
        by_cases quote : character = '"'
        · subst quote
          rfl
        · rw [if_neg quote]
          simp [Reading.step, Reading.addTo, quote]
      rw [List.flatMap_cons, List.foldlM_append, next]
      simpa using ih (character :: earlier)

theorem readsAs_quoted (content : Text) :
    ReadsAs (['"'] ++ content.flatMap doubled ++ ['"']) content := by
  intro records fields
  refine ⟨.closing, by decide, ?_⟩
  have opened : Reading.step ⟨records, fields, [], .start⟩ '"' =
      some ⟨records, fields, [], .quoted⟩ := rfl
  rw [List.foldlM_append, List.foldlM_append, List.foldlM_cons, opened]
  simp [foldlM_doubled, Reading.step]

theorem readsAs_field (content : Text) : ReadsAs (field content) content := by
  unfold field
  by_cases special : content.any isSpecial = true
  · rw [if_pos special]
    exact readsAs_quoted content
  · rw [if_neg special]
    apply readsAs_bare
    intro character member
    cases marked : isSpecial character with
    | false => rfl
    | true => exact absurd (List.any_eq_true.mpr ⟨character, member, marked⟩) special

-- A carriage return or a newline in a quoted field ends no record.
example : records? "a,\"b\r\n\"\"c\"\n,\r\n".toList =
    some [["a".toList, "b\r\n\"c".toList], [[], []]] := by decide

/-! ### Reading records -/

theorem ReadsAs.endField {written content : Text} (read : ReadsAs written content)
    (records : List (List Text)) (fields : List Text) :
    (written ++ [',']).foldlM Reading.step ⟨records, fields, [], .start⟩ =
      some ⟨records, content :: fields, [], .start⟩ := by
  obtain ⟨position, place, behind⟩ := read records fields
  rw [List.foldlM_append, behind]
  simp only [List.mem_cons, List.not_mem_nil, or_false] at place
  rcases place with rfl | rfl | rfl
  all_goals simp [Reading.step, Reading.between, Reading.endField]

theorem ReadsAs.endRecord {written content : Text} (read : ReadsAs written content)
    (records : List (List Text)) (fields : List Text) :
    (written ++ ['\n']).foldlM Reading.step ⟨records, fields, [], .start⟩ =
      some ⟨(content :: fields).reverse :: records, [], [], .start⟩ := by
  obtain ⟨position, place, behind⟩ := read records fields
  rw [List.foldlM_append, behind]
  simp only [List.mem_cons, List.not_mem_nil, or_false] at place
  rcases place with rfl | rfl | rfl
  all_goals simp [Reading.step, Reading.between, Reading.endField, Reading.endRecord]

theorem foldlM_record {row : List Text} (inhabited : row ≠ []) (records : List (List Text))
    (earlier : List Text) :
    (record row).foldlM Reading.step ⟨records, earlier, [], .start⟩ =
      some ⟨(earlier.reverse ++ row) :: records, [], [], .start⟩ := by
  induction row generalizing earlier with
  | nil => contradiction
  | cons content later ih =>
      have read := readsAs_field content
      cases later with
      | nil =>
          have line := read.endRecord records earlier
          simpa [record] using line
      | cons next others =>
          have split : record (content :: next :: others) =
              (field content ++ [',']) ++ record (next :: others) := by
            simp [record, List.intercalate_cons_cons]
          rw [split, List.foldlM_append, read.endField]
          simpa using ih (List.cons_ne_nil next others) (content :: earlier)

theorem foldlM_flatMap_record {rows : List (List Text)} (inhabited : ∀ row ∈ rows, row ≠ [])
    (earlier : List (List Text)) :
    (rows.flatMap record).foldlM Reading.step ⟨earlier, [], [], .start⟩ =
      some ⟨rows.reverse ++ earlier, [], [], .start⟩ := by
  induction rows generalizing earlier with
  | nil => rfl
  | cons row later ih =>
      rw [List.flatMap_cons, List.foldlM_append,
        foldlM_record (inhabited row List.mem_cons_self)]
      simpa using ih (fun other listed => inhabited other (List.mem_cons_of_mem row listed))
        (row :: earlier)

/-- Records with at least one field each are read back from their lines. -/
theorem records?_flatMap_record {rows : List (List Text)} (inhabited : ∀ row ∈ rows, row ≠ []) :
    records? (rows.flatMap record) = some rows := by
  unfold records? Reading.initial
  rw [foldlM_flatMap_record inhabited]
  simp [Reading.finish]

/-! ### Reading reports -/

theorem records_ne_nil (report : Report) : ∀ row ∈ records report, row ≠ [] := by
  intro row listed
  rcases List.mem_cons.mp listed with rfl | inGroups
  · exact List.cons_ne_nil _ _
  · obtain ⟨group, _, inGroup⟩ := List.mem_flatMap.mp inGroups
    obtain ⟨occurrence, _, rfl⟩ := List.mem_map.mp inGroup
    exact List.cons_ne_nil _ _

/-- The output for any report is read as the names of the fields and then, for the occurrences of all
groups in order, the fingerprint of the group, the source as it is, and five numbers. The fingerprint
and the numbers are read back from these fields. -/
theorem records?_ofReport (report : Report) :
    records? (ofReport report) = some
        ([ "fingerprint".toList, "path".toList, "start_token".toList, "end_token".toList,
           "start_line".toList, "end_line".toList, "token_count".toList ] ::
          report.groups.flatMap fun group => group.occurrences.map fun occurrence =>
            [ group.fingerprint.display, occurrence.source, Text.decimal occurrence.start,
              Text.decimal occurrence.stop, Text.decimal occurrence.lines.first,
              Text.decimal occurrence.lines.last,
              Text.decimal (occurrence.stop - occurrence.start) ]) ∧
      (∀ fingerprint : Fingerprint, fingerprint.display.length = 32 ∧
        Fingerprint.ofText fingerprint.display = .ok fingerprint) ∧
      ∀ number, Text.digits? (Text.decimal number) = some number := by
  refine ⟨records?_flatMap_record (records_ne_nil report), ?_, Text.digits?_decimal⟩
  intro fingerprint
  exact ⟨Text.length_hexDigits Fingerprint.width fingerprint.word.toNat,
    fingerprint.ofText_display⟩

end RepeatScan.Csv
