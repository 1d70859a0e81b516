import RepeatScan.Text.Lines

set_option autoImplicit false

/-! The number of lines. Every newline ends a line, and what follows the last one is a line if there
is anything. So a text that is left when characters are taken out of another one has no more lines.
-/

namespace RepeatScan.Text

private theorem length_lines (text : Text) :
    (lines text).length = (pieces '\n' text).length - 1 +
      if ((pieces '\n' text).getLastD []).isEmpty then 0 else 1 := by
  unfold lines
  rw [List.length_append, List.length_map, List.length_dropLast]
  cases ((pieces '\n' text).getLastD []).isEmpty with
  | true => rfl
  | false => rfl

@[simp]
theorem length_lines_newline (text : Text) :
    (lines ('\n' :: text)).length = (lines text).length + 1 := by
  have opened : pieces '\n' ('\n' :: text) = [] :: pieces '\n' text := rfl
  rw [length_lines, length_lines, opened]
  cases parts : pieces '\n' text with
  | nil => exact absurd parts (pieces_ne_nil '\n' text)
  | cons piece later =>
      simp only [List.getLastD_cons, List.length_cons]
      omega

theorem length_lines_cons {character : Char} (inside : character ≠ '\n') (text : Text) :
    (lines (character :: text)).length = max 1 (lines text).length := by
  rw [length_lines, length_lines, pieces_cons]
  cases parts : pieces '\n' text with
  | nil => exact absurd parts (pieces_ne_nil '\n' text)
  | cons piece later =>
      have joined : consPiece '\n' character (piece :: later) = (character :: piece) :: later :=
        if_neg inside
      rw [joined]
      cases later with
      | nil =>
          cases piece with
          | nil => rfl
          | cons first rest => rfl
      | cons next others =>
          simp only [List.getLastD_cons, List.length_cons]
          omega

theorem length_lines_le_cons (character : Char) (text : Text) :
    (lines text).length ≤ (lines (character :: text)).length := by
  by_cases ending : character = '\n'
  · rw [ending, length_lines_newline]
    exact Nat.le_succ _
  · rw [length_lines_cons ending]
    exact Nat.le_max_right _ _

/-- Taking characters out of a text adds no line. -/
theorem length_lines_le_of_sublist {left right : Text} (part : left.Sublist right) :
    (lines left).length ≤ (lines right).length := by
  induction part with
  | slnil => exact Nat.le_refl _
  | cons character _ ih => exact Nat.le_trans ih (length_lines_le_cons character _)
  | cons_cons character _ ih =>
      by_cases ending : character = '\n'
      · rw [ending, length_lines_newline, length_lines_newline]
        exact Nat.succ_le_succ ih
      · rw [length_lines_cons ending, length_lines_cons ending]
        omega

end RepeatScan.Text
