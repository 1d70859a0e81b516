import RepeatScan.Output.Snippet
import RepeatScan.Proofs.Mask.Alignment
import RepeatScan.Proofs.Text.Passage

set_option autoImplicit false

/-! Snippets against passages. The lines of a snippet are the lines of the text, numbered as those that
masking numbers, but the line breaks between them are all spelled alike. Main statements: masking numbers
lines as snippets do, and when a snippet is the passage that it shows. -/

namespace RepeatScan.Snippet

open Text (pieces dropReturn rawLines passage)

variable {text : Text} {range : LineRange}

/-! ### Lines -/

@[simp]
theorem length_lines (text : Text) : (lines text).length = (pieces '\n' text).length := by
  simp [lines]

theorem length_textLines_le (text : Text) : (Text.lines text).length ≤ (lines text).length := by
  obtain ⟨front, last, parts, listed⟩ := Text.exists_lines_eq text
  rw [length_lines, parts, listed]
  cases last with
  | nil => simp
  | cons character rest => simp

theorem slice_lines (first last : Nat) (text : Text) :
    ((lines text).take last).drop (first - 1) = (rawLines first last text).map dropReturn := by
  unfold lines rawLines
  rw [List.map_drop, List.map_take]

/-- A range of lines that a text has. -/
structure InText (range : LineRange) (text : Text) : Prop where
  least : 1 ≤ range.first
  ordered : range.first ≤ range.last
  within : range.last ≤ (lines text).length

/-- Inside a text nothing of a range is cut off. -/
theorem InText.ofText_eq (inText : InText range text) :
    ofText range text = some ((lineEnding text).intercalate
      (((lines text).take range.last).drop (range.first - 1))) := by
  have first : max range.first 1 = range.first := Nat.max_eq_left inText.least
  have last : min range.last (lines text).length = range.last := Nat.min_eq_left inText.within
  unfold ofText
  simp only [first, last, if_pos inText.ordered]

/-! ### Masked lines -/

/-- The entry at a position of a line: what stands between newlines there, less a carriage return. -/
theorem exists_entry {position : Nat} {origin : Text}
    (stands : (Text.lines text)[position]? = some origin) :
    ∃ piece, (pieces '\n' text)[position]? = some piece ∧
      (lines text)[position]? = some (dropReturn piece) ∧
      (origin = dropReturn piece ∨ origin = piece) := by
  obtain ⟨front, last, parts, listed⟩ := Text.exists_lines_eq text
  have entries : lines text = front.map dropReturn ++ [dropReturn last] := by
    rw [lines, parts, List.map_append, List.map_singleton]
  rw [parts, entries]
  rw [listed] at stands
  by_cases inside : position < front.length
  · rw [List.getElem?_append_left (by simpa using inside), List.getElem?_map,
      List.getElem?_eq_getElem inside] at stands
    rw [List.getElem?_append_left inside, List.getElem?_append_left (by simpa using inside),
      List.getElem?_map, List.getElem?_eq_getElem inside]
    exact ⟨front[position], rfl, rfl, Or.inl (Option.some.inj stands).symm⟩
  · -- the last piece is a line only if there is something in it, and its carriage return stays
    rw [List.getElem?_append_right (by simpa using inside), List.length_map] at stands
    cases last with
    | nil => cases stands
    | cons character rest =>
        obtain ⟨atEnd, whole⟩ := List.getElem?_eq_some_iff.mp stands
        have final : position = front.length := by
          simp only [List.isEmpty_cons, Bool.false_eq_true, if_false, List.length_singleton] at atEnd
          omega
        subst final
        exact ⟨character :: rest, by simp, by simp, Or.inr (by simpa using whole.symm)⟩

/-- A part of a line without carriage returns does without the one at the end of the line. -/
theorem sublist_dropReturn {part line : Text} (sublist : part.Sublist line) (clear : '\r' ∉ part) :
    part.Sublist (dropReturn line) := by
  have same : dropReturn part = part :=
    Text.dropReturn_of_getLast? fun returned => clear (List.mem_of_getLast? returned)
  rw [← same]
  exact Text.dropReturn_sublist sublist

/-- A masked line and the entry of its number among the lines of snippets. The entry is what stands
between newlines, less at most one carriage return. What the line shows, names as placeholders and other
lexemes as they are, is made of characters of the entry in their order. -/
structure ShowsEntry (mask : Mask) (text : Text) (line : NumberedLine) : Prop where
  least : 1 ≤ line.number
  shown : ∃ left piece entry,
    (Text.lines (mask.withoutComments text))[line.number - 1]? = some left ∧
      (pieces '\n' text)[line.number - 1]? = some piece ∧
      (lines text)[line.number - 1]? = some entry ∧
      (piece = entry ∨ piece = entry ++ ['\r']) ∧
      words line.text = (lexemes left).map mask.maskLexeme ∧ (lexemes left).flatten.Sublist entry

theorem showsEntry_of_showsLine {mask : Mask} (solid : Settings.isSolid mask.placeholder = true)
    {line : NumberedLine} (shows : mask.ShowsLine text line) : ShowsEntry mask text line where
  least := shows.first
  shown := by
    obtain ⟨left, origin, remains, stands, written, part⟩ := shows.shown
    obtain ⟨piece, isPiece, listed, same⟩ := exists_entry stands
    have clear : '\r' ∉ (lexemes left).flatten := by
      intro member
      obtain ⟨lexeme, known, inside⟩ := List.mem_flatten.mp member
      have solid := not_isBlank_of_mem_lexemes known '\r' inside
      cases solid
    refine ⟨left, piece, dropReturn piece, remains, isPiece, listed, ?_, ?_, ?_⟩
    · exact (Text.dropReturn_cases piece).imp_left Eq.symm
    · rw [written, words_intercalate, List.flatMap_map]
      exact Mask.flatMap_words_maskLexeme solid left
    · rcases same with dropped | whole
      · rw [← dropped]
        exact part
      · rw [whole] at part
        exact sublist_dropReturn part clear

/-- Masking numbers its lines as the lines of snippets are numbered. -/
theorem showsEntry_of_valid [Platform] (settings : CheckedSettings)
    (few : (Text.lines text).length < UInt32.size) {line : NumberedLine}
    (member : line ∈ settings.mask.maskLines text) : ShowsEntry settings.mask text line :=
  showsEntry_of_showsLine settings.solid_placeholder (Mask.showsLine_of_mem
    settings.solid_placeholder (Mask.thinned_of_valid settings text) few member)

/-! ### Line breaks -/

/-- Whether some newline of a text follows no carriage return. -/
def hasBareBreak : Text → Bool
  | [] => false
  | '\n' :: _ => true
  | '\r' :: '\n' :: rest => hasBareBreak rest
  | _ :: rest => hasBareBreak rest

private theorem head_ne_newline {character : Char} {later : Text} (flat : '\n' ∉ character :: later)
    {rest : Text} (rest' : Text) (same : character :: rest = '\n' :: rest') : False := by
  obtain ⟨rfl, _⟩ := List.cons.inj same
  exact flat List.mem_cons_self

theorem hasReturnBreak_line {line : Text} (flat : '\n' ∉ line) (rest : Text) :
    hasReturnBreak (line ++ '\n' :: rest) =
      (decide (line.getLast? = some '\r') || hasReturnBreak rest) := by
  induction line with
  | nil => simp [hasReturnBreak]
  | cons character later ih =>
      have clear := List.not_mem_of_not_mem_cons flat
      cases later with
      | nil =>
          by_cases returned : character = '\r'
          · subst returned
            simp [hasReturnBreak]
          · simp [hasReturnBreak, returned]
      | cons next others =>
          have step : hasReturnBreak (character :: (next :: others ++ '\n' :: rest)) =
              hasReturnBreak (next :: others ++ '\n' :: rest) := by
            rw [hasReturnBreak]
            exact fun later _ => head_ne_newline clear later
          rw [List.cons_append, step, ih clear]
          simp

theorem hasBareBreak_line {line : Text} (flat : '\n' ∉ line) (rest : Text) :
    hasBareBreak (line ++ '\n' :: rest) =
      (decide (line.getLast? ≠ some '\r') || hasBareBreak rest) := by
  induction line with
  | nil => simp [hasBareBreak]
  | cons character later ih =>
      have clear := List.not_mem_of_not_mem_cons flat
      have other : character ≠ '\n' := (List.ne_of_not_mem_cons flat).symm
      cases later with
      | nil =>
          by_cases returned : character = '\r'
          · subst returned
            simp [hasBareBreak]
          · simp [hasBareBreak, returned]
      | cons next others =>
          have step : hasBareBreak (character :: (next :: others ++ '\n' :: rest)) =
              hasBareBreak (next :: others ++ '\n' :: rest) := by
            rw [hasBareBreak]
            · exact other
            · exact fun later _ => head_ne_newline clear later
          rw [List.cons_append, step, ih clear]
          simp

-- Both scans for line breaks go on line by line.
private theorem scan_lines {scan mark : Text → Bool}
    (step : ∀ line, '\n' ∉ line → ∀ rest, scan (line ++ '\n' :: rest) = (mark line || scan rest))
    {front : List Text} (flat : ∀ line ∈ front, '\n' ∉ line) (rest : Text) :
    scan ((front.flatMap fun line => line ++ ['\n']) ++ rest) = (front.any mark || scan rest) := by
  induction front with
  | nil => rfl
  | cons line later ih =>
      rw [List.flatMap_cons, List.append_assoc, List.append_assoc, List.singleton_append,
        step line (flat line List.mem_cons_self),
        ih fun other listed => flat other (List.mem_cons_of_mem line listed), List.any_cons,
        Bool.or_assoc]

theorem hasReturnBreak_lines {front : List Text} (flat : ∀ line ∈ front, '\n' ∉ line)
    (rest : Text) :
    hasReturnBreak ((front.flatMap fun line => line ++ ['\n']) ++ rest) =
      (front.any (fun line => line.getLast? = some '\r') || hasReturnBreak rest) :=
  scan_lines (fun _ => hasReturnBreak_line) flat rest

theorem hasBareBreak_lines {front : List Text} (flat : ∀ line ∈ front, '\n' ∉ line)
    (rest : Text) :
    hasBareBreak ((front.flatMap fun line => line ++ ['\n']) ++ rest) =
      (front.any (fun line => line.getLast? ≠ some '\r') || hasBareBreak rest) :=
  scan_lines (fun _ => hasBareBreak_line) flat rest

theorem hasBareBreak_of_flat {line : Text} (flat : '\n' ∉ line) : hasBareBreak line = false := by
  induction line with
  | nil => rfl
  | cons character later ih =>
      have clear := List.not_mem_of_not_mem_cons flat
      have other : character ≠ '\n' := (List.ne_of_not_mem_cons flat).symm
      rw [hasBareBreak]
      · exact ih clear
      · exact other
      · rintro rest _ rfl
        exact clear List.mem_cons_self

/-! ### Breaks spelled alike -/

theorem lineEnding_cases (text : Text) : lineEnding text = ['\n'] ∨ lineEnding text = ['\r', '\n'] := by
  unfold lineEnding
  cases hasReturnBreak text with
  | true => exact Or.inr rfl
  | false => exact Or.inl rfl

private theorem respelled_line_iff {joint : Text} (known : joint = ['\n'] ∨ joint = ['\r', '\n'])
    (line found wanted : Text) :
    dropReturn line ++ joint ++ found = line ++ ['\n'] ++ wanted ↔
      dropReturn line ++ joint = line ++ ['\n'] ∧ found = wanted := by
  cases Text.dropReturn_cases line with
  | inl same =>
      rw [same]
      rcases known with rfl | rfl <;> simp
  | inr returned =>
      generalize dropReturn line = front at returned
      subst returned
      rcases known with rfl | rfl <;> simp

/-- Lines with new breaks are as they were exactly when every break was spelled like that. -/
theorem respelled_iff {joint : Text} (known : joint = ['\n'] ∨ joint = ['\r', '\n'])
    (front : List Text) {left right : Text} :
    (front.flatMap fun line => dropReturn line ++ joint) ++ left =
        (front.flatMap fun line => line ++ ['\n']) ++ right ↔
      (∀ line ∈ front, dropReturn line ++ joint = line ++ ['\n']) ∧ left = right := by
  induction front with
  | nil => simp
  | cons line later ih =>
      rw [List.flatMap_cons, List.flatMap_cons, List.append_assoc (dropReturn line ++ joint),
        List.append_assoc (line ++ ['\n']), respelled_line_iff known, ih, List.forall_mem_cons,
        and_assoc]

theorem dropReturn_append_joint (line : Text) :
    (dropReturn line ++ ['\r', '\n'] = line ++ ['\n'] ↔ line.getLast? = some '\r') ∧
      (dropReturn line ++ ['\n'] = line ++ ['\n'] ↔ line.getLast? ≠ some '\r') := by
  by_cases returned : line.getLast? = some '\r'
  · obtain ⟨front, rfl⟩ := List.getLast?_eq_some_iff.mp returned
    simp [Text.dropReturn_append_return]
  · rw [Text.dropReturn_of_getLast? returned]
    simp [returned]

/-! ### Snippets and passages -/

theorem dropReturn_append {front line : Text} (ended : front.getLast? ≠ some '\r') :
    dropReturn (front ++ line) = front ++ dropReturn line := by
  rcases List.eq_nil_or_concat line with rfl | ⟨begin, last, rfl⟩
  · rw [List.append_nil, Text.dropReturn_of_getLast? ended]
    simp [dropReturn]
  · rw [List.concat_eq_append, ← List.append_assoc]
    by_cases returned : last = '\r'
    · rw [returned, Text.dropReturn_append_return, Text.dropReturn_append_return]
    · rw [Text.dropReturn_of_getLast? (by simpa using returned),
        Text.dropReturn_of_getLast? (by simpa using returned), List.append_assoc]

theorem getLast?_flatMap_ended (front : List Text) :
    (front.flatMap fun line => line ++ ['\n']).getLast? ≠ some '\r' := by
  by_cases none : front = []
  · simp [none]
  · rw [Text.flatMap_ended ['\n'] none]
    simp

theorem dropReturn_eq_self_iff {line : Text} :
    dropReturn line = line ↔ line.getLast? ≠ some '\r' := by
  have same := (dropReturn_append_joint line).2
  simpa using same

theorem getLast?_append_iff {front line : Text} (ended : front.getLast? ≠ some '\r') :
    (front ++ line).getLast? = some '\r' ↔ line.getLast? = some '\r' := by
  rw [← not_iff_not, ← Ne, ← Ne, ← dropReturn_eq_self_iff, ← dropReturn_eq_self_iff,
    dropReturn_append ended, List.append_cancel_left_eq]

theorem filter_dropReturn (line : Text) :
    (dropReturn line).filter (· ≠ '\r') = line.filter (· ≠ '\r') := by
  cases Text.dropReturn_cases line with
  | inl same => rw [same]
  | inr returned =>
      conv => rhs; rw [returned]
      simp

theorem filter_lineEnding (text : Text) :
    (lineEnding text).filter (· ≠ '\r') = ['\n'].filter (· ≠ '\r') := by
  rcases lineEnding_cases text with bare | returned
  · rw [bare]
  · rw [returned]
    rfl

section Cut

variable {first last : Nat} {front : List Text} {final : Text}
  (cut : rawLines first last text = front ++ [final])

include cut

theorem passage_of_cut :
    passage first last text = (front.flatMap fun line => line ++ ['\n']) ++
      if last < (pieces '\n' text).length then dropReturn final else final := by
  have joined : ['\n'].intercalate (rawLines first last text) =
      (front.flatMap fun line => line ++ ['\n']) ++ final := by
    rw [cut, Text.intercalate_append ['\n'] front (List.cons_ne_nil final []),
      List.intercalate_singleton]
  unfold passage
  rw [joined, dropReturn_append (getLast?_flatMap_ended front)]
  split
  · rfl
  · rfl

theorem snippet_of_cut (joint : Text) :
    joint.intercalate ((rawLines first last text).map dropReturn) =
      (front.flatMap fun line => dropReturn line ++ joint) ++ dropReturn final := by
  rw [cut, List.map_append, Text.intercalate_append joint _ (by simp), List.flatMap_map]
  simp

theorem flat_of_cut : (∀ line ∈ front, '\n' ∉ line) ∧ '\n' ∉ final := by
  have flat : ∀ line ∈ front ++ [final], '\n' ∉ line := by
    rw [← cut]
    exact fun _ => Text.newline_not_mem_of_mem_rawLines
  exact ⟨fun line listed => flat line (by simp [listed]), flat final (by simp)⟩

/-- A line that is not the last of a passage is not the last of the text. -/
theorem hasReturnBreak_of_cut (ordered : first ≤ last) {line : Text} (listed : line ∈ front)
    (returned : line.getLast? = some '\r') : hasReturnBreak text = true := by
  have split := Text.pieces_eq_around_rawLines text ordered
  rw [cut, List.append_assoc, ← List.append_assoc] at split
  have flat : ∀ other ∈ (pieces '\n' text).take (first - 1) ++ front, '\n' ∉ other := by
    intro other member
    apply Text.not_mem_of_mem_pieces
    rw [split]
    exact List.mem_append_left _ member
  rw [← Text.intercalate_pieces '\n' text, split, Text.intercalate_append _ _ (by simp),
    hasReturnBreak_lines flat, Bool.or_eq_true, List.any_eq_true]
  exact Or.inl ⟨line, List.mem_append_right _ listed, by simpa using returned⟩

theorem breaks_iff (ordered : first ≤ last) :
    (∀ line ∈ front, dropReturn line ++ lineEnding text = line ++ ['\n']) ↔
      ¬ (hasReturnBreak text = true ∧ hasBareBreak (passage first last text) = true) := by
  obtain ⟨flat, inFinal⟩ := flat_of_cut cut
  have bare : hasBareBreak (passage first last text) =
      front.any fun line => line.getLast? ≠ some '\r' := by
    rw [passage_of_cut cut, hasBareBreak_lines flat, hasBareBreak_of_flat, Bool.or_false]
    split
    · exact fun member => inFinal ((Text.isPrefix_dropReturn final).subset member)
    · exact inFinal
  rw [bare]
  unfold lineEnding
  cases returns : hasReturnBreak text with
  | true => simp [(dropReturn_append_joint _).1]
  | false =>
      have plain : ∀ line ∈ front, line.getLast? ≠ some '\r' := by
        intro line listed returned
        rw [hasReturnBreak_of_cut cut ordered listed returned] at returns
        cases returns
      simpa [(dropReturn_append_joint _).2] using plain

theorem ending_iff (within : last ≤ (pieces '\n' text).length) :
    (dropReturn final = if last < (pieces '\n' text).length then dropReturn final else final) ↔
      ¬ (last = (pieces '\n' text).length ∧ (passage first last text).getLast? = some '\r') := by
  rw [passage_of_cut cut, getLast?_append_iff (getLast?_flatMap_ended front)]
  by_cases inside : last < (pieces '\n' text).length
  · simp [inside, Nat.ne_of_lt inside]
  · have whole : last = (pieces '\n' text).length := by omega
    simp [whole, dropReturn_eq_self_iff]

end Cut

theorem InText.exists_cut (inText : InText range text) :
    ∃ front final, rawLines range.first range.last text = front ++ [final] := by
  have within := inText.within
  rw [length_lines] at within
  have inhabited := Text.rawLines_ne_nil inText.least inText.ordered within
  exact ⟨_, _, (List.dropLast_append_getLast inhabited).symm⟩

/-- A snippet is its passage unless a bare newline in it becomes a break with a carriage return, as the
text has such breaks, or it reaches to the end of a text that ends in a carriage return. -/
theorem InText.eq_passage_iff (inText : InText range text) :
    (lineEnding text).intercalate (((lines text).take range.last).drop (range.first - 1)) =
        passage range.first range.last text ↔
      ¬ (hasReturnBreak text = true ∧
          hasBareBreak (passage range.first range.last text) = true) ∧
        ¬ (range.last = (lines text).length ∧
          (passage range.first range.last text).getLast? = some '\r') := by
  obtain ⟨front, final, cut⟩ := inText.exists_cut
  obtain ⟨_, ordered, within⟩ := inText
  rw [length_lines] at within ⊢
  rw [slice_lines, snippet_of_cut cut, ← breaks_iff cut ordered, ← ending_iff cut within]
  conv => lhs; rhs; rw [passage_of_cut cut]
  exact respelled_iff (lineEnding_cases text) front

/-- A snippet and its passage differ in carriage returns only. -/
theorem InText.filter_eq_passage (inText : InText range text) :
    ((lineEnding text).intercalate
        (((lines text).take range.last).drop (range.first - 1))).filter (· ≠ '\r') =
      (passage range.first range.last text).filter (· ≠ '\r') := by
  obtain ⟨front, final, cut⟩ := inText.exists_cut
  rw [slice_lines, snippet_of_cut cut, passage_of_cut cut]
  simp only [List.filter_append, List.filter_flatMap, filter_dropReturn, filter_lineEnding]
  split
  · rw [filter_dropReturn]
  · rfl

theorem InText.isPassage_iff (inText : InText range text) {found : Text} :
    Text.IsPassage range.first range.last text found ↔
      found = passage range.first range.last text := by
  have within := inText.within
  rw [length_lines] at within
  exact Text.isPassage_iff inText.least inText.ordered within

end RepeatScan.Snippet
