import RepeatScan.Yaml.Layout
import Mathlib.Data.List.Basic

set_option autoImplicit false

/-! The characters of written documents. All of them are printable, so a document is read as it stands: no
character is refused, and nothing but newlines reads as a newline. Places of a text go forward
character by character, and neighbours in a text follow a rule when no pair of them breaks it. -/

namespace RepeatScan.Yaml

/-! ### Printable characters -/

theorem isAllowed_of_isPrintable {character : Char} (printable : isPrintable character = true) :
    isAllowed character = true := by
  simp [isPrintable, isAllowed, Text.CodeRange.covers] at printable ⊢
  omega

/-- A tab is not printable, so a printable gap is a space or a line break. -/
theorem isGap_of_isPrintable {character : Char} (printable : isPrintable character = true) :
    isGap character = (character == ' ' || isBreak character) := by
  have noTab : character ≠ '\t' := by
    rintro rfl
    revert printable
    decide
  simp [isGap, isBlank, beq_eq_false_iff_ne.mpr noTab]

theorem not_isByteOrderMark_of_isPrintable {character : Char}
    (printable : isPrintable character = true) : isByteOrderMark character = false := by
  simp [isPrintable, isByteOrderMark, Text.CodeRange.covers] at printable ⊢
  omega

theorem foldl_add_of_isPrintable {text : Text}
    (printable : ∀ character ∈ text, isPrintable character = true) (earlier : Text) :
    text.foldl Breaks.add ⟨false, earlier⟩ = ⟨false, text.reverse ++ earlier⟩ := by
  induction text generalizing earlier with
  | nil => rfl
  | cons character later ih =>
      have first := printable character List.mem_cons_self
      have noReturn : character ≠ '\r' := by
        rintro rfl
        revert first
        decide
      have noNextLine : character.toNat ≠ 0x85 := by
        simp [isPrintable, Text.CodeRange.covers] at first
        omega
      have step : Breaks.add ⟨false, earlier⟩ character = ⟨false, character :: earlier⟩ := by
        simp [Breaks.add, noReturn, noNextLine]
      rw [List.foldl_cons, step,
        ih (fun other listed => printable other (List.mem_cons_of_mem _ listed))]
      simp

theorem unifyBreaks_of_isPrintable {text : Text}
    (printable : ∀ character ∈ text, isPrintable character = true) : unifyBreaks text = text := by
  simp [unifyBreaks, foldl_add_of_isPrintable printable]

/-! ### Spaces and newlines -/

theorem isGap_space : isGap ' ' = true := by decide

theorem isBreak_space : isBreak ' ' = false := by decide

theorem isGap_newline : isGap '\n' = true := by decide

theorem isBreak_newline : isBreak '\n' = true := by decide

/-! ### Places -/

namespace Place

@[simp]
theorem forward_zero (place : Place) : place.forward 0 = place := rfl

@[simp]
theorem forward_forward (place : Place) (first second : Nat) :
    (place.forward first).forward second = place.forward (first + second) := by
  simp [forward, Nat.add_assoc]

@[simp]
theorem column_forward (place : Place) (count : Nat) :
    (place.forward count).column = place.column + count := rfl

@[simp]
theorem line_forward (place : Place) (count : Nat) : (place.forward count).line = place.line := rfl

@[simp]
theorem index_forward (place : Place) (count : Nat) :
    (place.forward count).index = place.index + count := rfl

theorem advance_of_isBreak {character : Char} (breaks : isBreak character = true) (place : Place) :
    place.advance character = ⟨place.index + 1, place.line + 1, 0⟩ := by
  simp [advance, breaks]

theorem advance_of_not_isBreak {character : Char} (goes : isBreak character = false)
    (place : Place) : place.advance character = place.forward 1 := by
  simp [advance, goes]

theorem line_le_advance (place : Place) (character : Char) :
    place.line ≤ (place.advance character).line := by
  unfold advance
  split <;> simp

end Place

/-! ### Beginnings and neighbours -/

/-- A text that is empty or goes on with something else than a gap or a comment. -/
def BeginsWord (text : Text) : Prop :=
  ∀ first ∈ text.head?, isGap first = false ∧ first ≠ '#' ∧ isByteOrderMark first = false

theorem isChain_of_adjacent {pair : Char × Char → Bool} {text : Text}
    (none : (adjacent text).any pair = false) :
    text.IsChain fun left right => pair (left, right) = false := by
  induction text with
  | nil => exact .nil
  | cons first later ih =>
      cases later with
      | nil => exact .singleton first
      | cons second later =>
          have split : pair (first, second) = false ∧
              (adjacent (second :: later)).any pair = false := by
            simpa [adjacent] using none
          exact .cons_cons split.1 (ih split.2)

end RepeatScan.Yaml
