import RepeatScan.Proofs.Mask.Numbers
import RepeatScan.Proofs.Mask.Tokens

set_option autoImplicit false

/-! Lines stay where they are. Comments go and leave every newline behind, so each masked line has the
number of the line that it was in the text, and shows nothing that did not stand there. -/

namespace RepeatScan

namespace Mask

variable {mask : Mask} {text : Text}

theorem maskLexeme_ne_nil (solid : Settings.isSolid mask.placeholder = true) {line lexeme : Text}
    (member : lexeme ∈ lexemes line) : mask.maskLexeme lexeme ≠ [] := by
  unfold maskLexeme
  split
  · exact (Settings.isSolid_iff.mp solid).1
  · exact ne_nil_of_mem_lexemes member

/-- With a solid placeholder no space is left out between the lexemes of a line. -/
theorem maskLine_of_solid (solid : Settings.isSolid mask.placeholder = true) (line : Text) :
    mask.maskLine line = [' '].intercalate ((lexemes line).map mask.maskLexeme) := by
  unfold maskLine
  cases parts : lexemes line with
  | nil => rfl
  | cons lexeme later =>
      have inhabited : mask.maskLexeme lexeme ≠ [] :=
        maskLexeme_ne_nil solid (by rw [parts]; exact List.mem_cons_self)
      rw [List.map_cons, List.dropWhile_cons_of_neg (by simpa using inhabited)]

theorem text_ne_nil_of_mem_maskLines {line : NumberedLine} (member : line ∈ mask.maskLines text) :
    line.text ≠ [] := by
  obtain ⟨entry, _, result⟩ := List.mem_filterMap.mp member
  dsimp only at result
  split at result
  · cases result
  · rename_i inhabited
    rw [← Option.some.inj result]
    simpa using inhabited

/-- A masked line shows lexemes of the line of its number, as it is without comments; they are made of
characters of that line of the text in their order. -/
structure ShowsLine (mask : Mask) (text : Text) (line : NumberedLine) : Prop where
  first : 1 ≤ line.number
  last : line.number ≤ (Text.lines text).length
  inhabited : line.text ≠ []
  shown : ∃ left origin,
    (Text.lines (mask.withoutComments text))[line.number - 1]? = some left ∧
      (Text.lines text)[line.number - 1]? = some origin ∧
      line.text = [' '].intercalate ((lexemes left).map mask.maskLexeme) ∧
      (lexemes left).flatten.Sublist origin

theorem showsLine_of_mem (solid : Settings.isSolid mask.placeholder = true)
    (thinned : Text.Thinned (· ≠ '\n') (mask.withoutComments text) text)
    (few : (Text.lines text).length < UInt32.size) {line : NumberedLine}
    (member : line ∈ mask.maskLines text) : ShowsLine mask text line := by
  obtain ⟨first, last⟩ := number_of_mem_maskLines few member
  have inhabited := text_ne_nil_of_mem_maskLines member
  obtain ⟨position, left, stands, same⟩ := exists_of_mem_maskLines member
  obtain ⟨inside, _⟩ := List.getElem?_eq_some_iff.mp stands
  obtain ⟨origin, found, part⟩ := thinned.getElem?_lines stands
  have number : line.number - 1 = position := by
    rw [same, lineNumber_eq_succ few inside]
    rfl
  refine ⟨first, last, inhabited, left, origin, ?_, ?_, ?_, ?_⟩
  · rw [number, stands]
  · rw [number, found]
  · rw [same]
    exact maskLine_of_solid solid left
  · exact (lexemes_read left).flatten_sublist.trans part

theorem thinned_of_valid [Platform] (settings : CheckedSettings) (text : Text) :
    Text.Thinned (· ≠ '\n') (settings.mask.withoutComments text) text :=
  withoutComments_thinned (fun marker listed =>
    Settings.newline_not_mem (settings.solid_markers marker listed)) text

/-- Comments go without a newline, so that every line is left of the line it was; and in a text with
fewer lines than numbers the masked lines are numbered as its lines are. -/
theorem alignment_of_valid [Platform] (settings : CheckedSettings) (text : Text) :
    Text.Thinned (· ≠ '\n') (settings.mask.withoutComments text) text ∧
      (settings.mask.withoutComments text).count '\n' = text.count '\n' ∧
      List.Forall₂ List.Sublist (Text.pieces '\n' (settings.mask.withoutComments text))
        (Text.pieces '\n' text) ∧
      (∀ (position : Nat) (left : Text),
        (Text.lines (settings.mask.withoutComments text))[position]? = some left →
          ∃ origin, (Text.lines text)[position]? = some origin ∧ left.Sublist origin) ∧
      ((Text.lines text).length < UInt32.size →
        (settings.mask.maskLines text).Pairwise (fun earlier later => earlier.number < later.number) ∧
          ∀ line ∈ settings.mask.maskLines text, ShowsLine settings.mask text line) := by
  have thinned := thinned_of_valid settings text
  have newline : ¬ ('\n' ≠ '\n') := by simp
  refine ⟨thinned, thinned.count_eq newline, thinned.pieces newline, ?_, ?_⟩
  · exact fun _ _ stands => thinned.getElem?_lines stands
  · intro few
    refine ⟨numbers_maskLines_increasing few, fun line member => ?_⟩
    exact showsLine_of_mem settings.solid_placeholder thinned few member

-- The second block goes over the end of a line, a third one follows it at once, and the last one never ends.
theorem alignment_of_valid_blocks :
    (Mask.standard.withoutComments "a /* # */ = 1\r\n/* x\n*//**/b\n/* c".toList).count '\n' = 3 ∧
      Mask.standard.maskLines "a /* # */ = 1\r\n/* x\n*//**/b\n/* c".toList =
        [⟨1, "VAR = 1".toList⟩, ⟨3, "VAR".toList⟩, ⟨4, "/* VAR".toList⟩] ∧
      ∀ line ∈ Mask.standard.maskLines "a /* # */ = 1\r\n/* x\n*//**/b\n/* c".toList,
        ShowsLine Mask.standard "a /* # */ = 1\r\n/* x\n*//**/b\n/* c".toList line := by
  obtain ⟨_, newlines, _, _, numbered⟩ :=
    alignment_of_valid ⟨Settings.standard, Mask.standard, rfl, rfl⟩
      "a /* # */ = 1\r\n/* x\n*//**/b\n/* c".toList
  exact ⟨newlines, by decide +kernel, (numbered (by decide)).2⟩

end Mask

end RepeatScan
