import RepeatScan.Proofs.Settings
import RepeatScan.Proofs.Text.Lexemes

set_option autoImplicit false

/-! The tokens of a text. Going line by line, joining with spaces and taking words again changes
nothing: the tokens are the lexemes of the text without its comments, taken as one text, each name
replaced by the placeholder. -/

namespace RepeatScan

namespace Mask

variable {mask : Mask}

/-- What a mask leaves of a line are the words of its masked lexemes. -/
theorem words_maskLine (mask : Mask) (line : Text) :
    words (mask.maskLine line) = (lexemes line).flatMap fun lexeme => words (mask.maskLexeme lexeme) := by
  have idle : ∀ parts : List Text,
      (parts.dropWhile List.isEmpty).flatMap words = parts.flatMap words := by
    intro parts
    induction parts with
    | nil => rfl
    | cons part later ih =>
        cases part with
        | nil => exact ih
        | cons character rest => rfl
  unfold maskLine
  rw [words_intercalate, idle, List.flatMap_map]

/-- The words of the masked lines, for any mask: a placeholder may be more than one word, or none. -/
theorem flatMap_words_maskLines (mask : Mask) (text : Text) :
    (mask.maskLines text).flatMap (fun line => words line.text) =
      (lexemes (mask.withoutComments text)).flatMap fun lexeme => words (mask.maskLexeme lexeme) := by
  have kept : ∀ masked number, ((if masked.isEmpty then none
      else some (NumberedLine.mk number masked)).toList.flatMap fun line => words line.text) =
        words masked := by
    intro masked number
    cases masked with
    | nil => rfl
    | cons character rest => simp
  unfold maskLines
  simp only [List.filterMap_eq_flatMap_toList, List.flatMap_assoc, kept, words_maskLine]
  conv => rhs; rw [← lexemes_lines, List.flatMap_assoc,
    ← List.zipIdx_map_fst 0 (Text.lines (mask.withoutComments text)), List.flatMap_map]

theorem words_maskText (mask : Mask) (text : Text) :
    words (mask.maskText text) =
      (lexemes (mask.withoutComments text)).flatMap fun lexeme => words (mask.maskLexeme lexeme) := by
  unfold maskText
  rw [words_intercalate, List.flatMap_map, flatMap_words_maskLines]

theorem tokens_tokenStream (mask : Mask) (text : Text) :
    (mask.tokenStream text).tokens = (lexemes (mask.withoutComments text)).flatMap fun lexeme =>
      if isName lexeme then words mask.placeholder else [lexeme] := by
  unfold tokenStream
  rw [TokenStream.tokens_ofLines, flatMap_words_maskLines]
  apply List.flatMap_congr
  intro lexeme member
  unfold maskLexeme
  split
  · rfl
  · exact words_of_mem_lexemes member

/-- A solid placeholder is one word, as every lexeme is. -/
theorem flatMap_words_maskLexeme (solid : Settings.isSolid mask.placeholder = true) (text : Text) :
    (lexemes text).flatMap (fun lexeme => words (mask.maskLexeme lexeme)) =
      (lexemes text).map mask.maskLexeme := by
  have one : ∀ lexeme ∈ lexemes text,
      words (mask.maskLexeme lexeme) = [mask.maskLexeme lexeme] := by
    intro lexeme member
    unfold maskLexeme
    split
    · obtain ⟨inhabited, plain⟩ := Settings.isSolid_iff.mp solid
      exact words_of_not_isBlank inhabited plain
    · exact words_of_mem_lexemes member
  rw [List.flatMap_congr one, List.map_eq_flatMap]

/-- The tokens of a text are the lexemes of what is left without its comments, read off as one text,
with the placeholder for those that start with a letter or an underscore. Texts in which the same
lexemes are left have the same tokens. -/
theorem words_maskText_of_valid [Platform] (settings : CheckedSettings) (text : Text) :
    (∃! found, Text.Runs Text.kindOf .blank (settings.mask.withoutComments text) found) ∧
      ∀ found, Text.Runs Text.kindOf .blank (settings.mask.withoutComments text) found →
        words (settings.mask.maskText text) =
            found.map (fun lexeme => if isName lexeme then settings.placeholder else lexeme) ∧
          ∀ other, Text.Runs Text.kindOf .blank (settings.mask.withoutComments other) found →
            words (settings.mask.maskText other) = words (settings.mask.maskText text) := by
  have masked : ∀ whole found,
      Text.Runs Text.kindOf .blank (settings.mask.withoutComments whole) found →
        words (settings.mask.maskText whole) = found.map settings.mask.maskLexeme := by
    intro whole found read
    rw [words_maskText, flatMap_words_maskLexeme settings.solid_placeholder, read.eq,
      lexemes_eq_runs]
  constructor
  · exact ⟨_, lexemes_read _, fun _ read => read.eq⟩
  · intro found read
    constructor
    · rw [masked text found read, settings.mask_eq]
      rfl
    · intro other same
      rw [masked text found read, masked other found same]

-- The second text has other blanks and line breaks, and its comments stand elsewhere.
theorem words_maskText_of_valid_spaced :
    words (Mask.standard.maskText "x=1/*\n*/2px // é\r\n\té\u00a0+_3".toList) =
        ["VAR".toList, ['='], ['1'], "2px".toList, "VAR".toList, ['+'], "VAR".toList] ∧
      words (Mask.standard.maskText "x =\n1 2px é# 4\n+/* 5 */_3".toList) =
        words (Mask.standard.maskText "x=1/*\n*/2px // é\r\n\té\u00a0+_3".toList) := by
  obtain ⟨_, tokens⟩ := words_maskText_of_valid ⟨Settings.standard, Mask.standard, rfl, rfl⟩
    "x=1/*\n*/2px // é\r\n\té\u00a0+_3".toList
  obtain ⟨masked, same⟩ := tokens _ (lexemes_read _)
  constructor
  · rw [masked]
    decide +kernel
  · apply same
    rw [Text.runs_iff]
    decide +kernel

end Mask

end RepeatScan
