import RepeatScan.Text.CodeRange

set_option autoImplicit false

/-! The pieces of a text between the occurrences of a separator. Main statement: joining the pieces
with the separator gives the text back. -/

namespace RepeatScan.Text

/-- Puts a character in front of the first piece, or opens a new piece at a separator. -/
def consPiece (separator character : Char) (pieces : List Text) : List Text :=
  if character = separator then [] :: pieces
  else match pieces with
    | [] => [[character]]
    | piece :: later => (character :: piece) :: later

/-- The pieces of a text between its separators, empty ones included. -/
def pieces (separator : Char) (text : Text) : List Text :=
  text.foldr (consPiece separator) [[]]

@[simp]
theorem pieces_nil (separator : Char) : pieces separator [] = [[]] := rfl

@[simp]
theorem pieces_cons (separator character : Char) (text : Text) :
    pieces separator (character :: text) =
      consPiece separator character (pieces separator text) := rfl

theorem pieces_ne_nil (separator : Char) (text : Text) : pieces separator text ≠ [] := by
  cases text with
  | nil => simp
  | cons character rest =>
      rw [pieces_cons]
      unfold consPiece
      split
      · simp
      · split <;> simp

theorem intercalate_pieces (separator : Char) (text : Text) :
    [separator].intercalate (pieces separator text) = text := by
  induction text with
  | nil => rfl
  | cons character rest ih =>
      cases parts : pieces separator rest with
      | nil => exact absurd parts (pieces_ne_nil separator rest)
      | cons piece later =>
          rw [pieces_cons, parts]
          rw [parts] at ih
          unfold consPiece
          split
          · rename_i same
            rw [List.intercalate_cons_cons, ih, same]
            rfl
          · cases later with
            | nil => simpa [List.intercalate] using ih
            | cons next others =>
                rw [List.intercalate_cons_cons] at ih ⊢
                simpa using ih

end RepeatScan.Text
