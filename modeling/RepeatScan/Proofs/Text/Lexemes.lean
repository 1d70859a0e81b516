import RepeatScan.Proofs.Text.Runs
import RepeatScan.Text.Lines

set_option autoImplicit false

/-! Lexemes and words as runs. No blank is part of a word, so blanks are the gaps between lexemes as
well as between words. Newlines and carriage returns are blanks: the lexemes of a text are those of
its lines. -/

namespace RepeatScan

namespace Text

/-- What holds of all characters of some ranges holds of every character that they cover. -/
theorem CodeRange.of_covers {ranges : List CodeRange} (good : Char → Bool)
    (all : ∀ range ∈ ranges, ∀ offset < range.2 + 1 - range.1,
      good (Char.ofNat (range.1 + offset)) = true)
    {character : Char} (covered : CodeRange.covers ranges character = true) :
    good character = true := by
  obtain ⟨range, listed, inside⟩ := List.any_eq_true.mp covered
  simp only [Bool.and_eq_true, decide_eq_true_eq] at inside
  have known := all range listed (character.toNat - range.1) (by omega)
  have same : range.1 + (character.toNat - range.1) = character.toNat := by omega
  rwa [same, Char.ofNat_toNat] at known

theorem isWordChar_eq_false_of_isBlank {character : Char} (blank : isBlank character = true) :
    isWordChar character = false := by
  have none : (!isWordChar character) = true :=
    CodeRange.of_covers (fun other => !isWordChar other) (by decide +kernel) blank
  simpa using none

@[simp]
theorem kindOf_eq_blank_iff {character : Char} :
    kindOf character = .blank ↔ isBlank character = true := by
  unfold kindOf
  cases blank : isBlank character with
  | true => simp [isWordChar_eq_false_of_isBlank blank]
  | false => cases isWordChar character <;> simp

end Text

/-! ### Lexemes and words are runs -/

theorem lexemes_eq_runs (text : Text) : lexemes text = Text.runs Text.kindOf .blank text := rfl

theorem words_eq_runs (text : Text) : words text = Text.runs Text.isBlank true text := by
  have solid : ∀ character, (!Text.isBlank character) = (Text.isBlank character != true) := by
    intro character
    cases Text.isBlank character <;> rfl
  unfold words Text.runs
  simp only [solid]

theorem lexemes_read (text : Text) : Text.Runs Text.kindOf .blank text (lexemes text) :=
  Text.runs_read Text.kindOf .blank text

theorem ne_nil_of_mem_lexemes {text lexeme : Text} (member : lexeme ∈ lexemes text) :
    lexeme ≠ [] :=
  ((lexemes_read text).alike member).1

theorem not_isBlank_of_mem_lexemes {text lexeme : Text} (member : lexeme ∈ lexemes text) :
    ∀ character ∈ lexeme, Text.isBlank character = false := by
  obtain ⟨_, sort, solid, alike⟩ := (lexemes_read text).alike member
  intro character inside
  cases blank : Text.isBlank character with
  | false => rfl
  | true => exact absurd ((alike character inside).symm.trans (Text.kindOf_eq_blank_iff.mpr blank)) solid

theorem words_of_not_isBlank {text : Text} (inhabited : text ≠ [])
    (solid : ∀ character ∈ text, Text.isBlank character = false) : words text = [text] := by
  rw [words_eq_runs]
  exact Text.runs_of_alike inhabited Bool.false_ne_true solid

theorem words_of_mem_lexemes {text lexeme : Text} (member : lexeme ∈ lexemes text) :
    words lexeme = [lexeme] :=
  words_of_not_isBlank (ne_nil_of_mem_lexemes member) (not_isBlank_of_mem_lexemes member)

theorem words_intercalate (parts : List Text) :
    words ([' '].intercalate parts) = parts.flatMap words := by
  have space : Text.isBlank ' ' = true := by decide
  rw [words_eq_runs, funext words_eq_runs]
  exact Text.runs_intercalate space parts

/-! ### The lexemes of lines -/

namespace Text

theorem dropReturn_append_return (line : Text) : dropReturn (line ++ ['\r']) = line := by
  simp [dropReturn]

theorem dropReturn_cases (line : Text) :
    dropReturn line = line ∨ line = dropReturn line ++ ['\r'] := by
  by_cases returned : line.getLast? = some '\r'
  · obtain ⟨front, rfl⟩ := List.getLast?_eq_some_iff.mp returned
    rw [dropReturn_append_return]
    exact Or.inr rfl
  · exact Or.inl (if_neg returned)

theorem isPrefix_dropReturn (line : Text) : dropReturn line <+: line := by
  rcases dropReturn_cases line with same | returned
  · exact ⟨[], by rw [List.append_nil, same]⟩
  · exact ⟨['\r'], returned.symm⟩

/-- The pieces between newlines, of which the last is no line when it is empty. -/
theorem exists_lines_eq (text : Text) :
    ∃ front last, pieces '\n' text = front ++ [last] ∧
      lines text = front.map dropReturn ++ if last.isEmpty then [] else [last] := by
  rcases List.eq_nil_or_concat (pieces '\n' text) with none | ⟨front, last, parts⟩
  · exact absurd none (pieces_ne_nil '\n' text)
  · refine ⟨front, last, by simpa using parts, ?_⟩
    unfold lines
    simp [parts]

end Text

theorem lexemes_dropReturn (line : Text) : lexemes (Text.dropReturn line) = lexemes line := by
  rcases Text.dropReturn_cases line with same | returned
  · rw [same]
  · conv => rhs; rw [returned]
    have returned : Text.kindOf '\r' = .blank := by decide
    have apart := Text.runs_append_gap returned (Text.dropReturn line) []
    rw [Text.runs_nil, List.append_nil] at apart
    exact apart.symm

theorem lexemes_pieces (text : Text) :
    (Text.pieces '\n' text).flatMap lexemes = lexemes text := by
  conv => rhs; rw [← Text.intercalate_pieces '\n' text]
  have newline : Text.kindOf '\n' = .blank := by decide
  exact (Text.runs_intercalate newline (Text.pieces '\n' text)).symm

/-- The lexemes of a text are those of its lines. -/
theorem lexemes_lines (text : Text) : (Text.lines text).flatMap lexemes = lexemes text := by
  obtain ⟨front, last, parts, listed⟩ := Text.exists_lines_eq text
  rw [← lexemes_pieces, parts, listed, List.flatMap_append, List.flatMap_append, List.flatMap_map]
  congr 1
  · simp only [lexemes_dropReturn]
  · cases last with
    | nil => rfl
    | cons character rest => rfl

end RepeatScan
