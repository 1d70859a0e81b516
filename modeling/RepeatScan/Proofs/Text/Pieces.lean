import RepeatScan.Text.Pieces

set_option autoImplicit false

/-! Pieces read back. Pieces that hold no separator are what a text made by joining them is cut into,
and a text put into a piece stays in it. -/

namespace RepeatScan.Text

variable {separator : Char}

theorem pieces_of_not_mem {text : Text} (whole : separator ∉ text) :
    pieces separator text = [text] := by
  induction text with
  | nil => rfl
  | cons character rest ih =>
      obtain ⟨other, later⟩ := List.ne_and_not_mem_of_not_mem_cons whole
      rw [pieces_cons, ih later]
      exact if_neg other.symm

theorem not_mem_of_mem_pieces {text piece : Text} (member : piece ∈ pieces separator text) :
    separator ∉ piece := by
  induction text generalizing piece with
  | nil =>
      rw [pieces_nil, List.mem_singleton] at member
      rw [member]
      exact List.not_mem_nil
  | cons character rest ih =>
      rw [pieces_cons] at member
      unfold consPiece at member
      split at member
      · rcases List.mem_cons.mp member with rfl | inside
        · exact List.not_mem_nil
        · exact ih inside
      · rename_i other
        split at member
        · rename_i none
          exact absurd none (pieces_ne_nil separator rest)
        · rename_i first later parts
          rcases List.mem_cons.mp member with rfl | inside
          · intro held
            rcases List.mem_cons.mp held with same | within
            · exact other same.symm
            · exact ih (by rw [parts]; exact List.mem_cons_self) within
          · exact ih (by rw [parts]; exact List.mem_cons_of_mem first inside)

theorem pieces_append_separator {left : Text} (whole : separator ∉ left) (right : Text) :
    pieces separator (left ++ separator :: right) = left :: pieces separator right := by
  induction left with
  | nil => exact if_pos rfl
  | cons character rest ih =>
      obtain ⟨other, later⟩ := List.ne_and_not_mem_of_not_mem_cons whole
      rw [List.cons_append, pieces_cons, ih later]
      exact if_neg other.symm

/-- Pieces that hold no separator are read back from the text that joins them. -/
theorem pieces_intercalate {parts : List Text} (inhabited : parts ≠ [])
    (whole : ∀ part ∈ parts, separator ∉ part) :
    pieces separator ([separator].intercalate parts) = parts := by
  induction parts with
  | nil => contradiction
  | cons part later ih =>
      have first : separator ∉ part := whole part List.mem_cons_self
      cases later with
      | nil => simpa using pieces_of_not_mem first
      | cons next others =>
          have rest : ∀ part ∈ next :: others, separator ∉ part := by
            intro other listed
            exact whole other (List.mem_cons_of_mem part listed)
          rw [List.intercalate_cons_cons, List.append_assoc, List.singleton_append,
            pieces_append_separator first, ih (List.cons_ne_nil next others) rest]

/-- Pieces that each end with the separator are read back with nothing behind the last one. -/
theorem pieces_flatMap_ended {parts : List Text} (whole : ∀ part ∈ parts, separator ∉ part) :
    pieces separator (parts.flatMap fun part => part ++ [separator]) = parts ++ [[]] := by
  induction parts with
  | nil => rfl
  | cons part later ih =>
      rw [List.flatMap_cons, List.append_assoc, List.singleton_append,
        pieces_append_separator (whole part List.mem_cons_self),
        ih fun other listed => whole other (List.mem_cons_of_mem part listed), List.cons_append]

theorem intercalate_join (front later : List Text) (last first : Text) :
    [separator].intercalate (front ++ (last ++ first) :: later) =
      [separator].intercalate (front ++ [last]) ++ [separator].intercalate (first :: later) := by
  induction front with
  | nil => cases later <;> simp
  | cons piece others ih =>
      rw [List.cons_append, List.cons_append, List.intercalate_cons_of_ne_nil (by simp),
        List.intercalate_cons_of_ne_nil (by simp), ih]
      simp

/-- Where two texts are joined, the last piece of the one and the first piece of the other are. -/
theorem pieces_append {left right : Text} {front later : List Text} {last first : Text}
    (ending : pieces separator left = front ++ [last])
    (opening : pieces separator right = first :: later) :
    pieces separator (left ++ right) = front ++ (last ++ first) :: later := by
  have inLeft : ∀ piece ∈ front ++ [last], separator ∉ piece := by
    rw [← ending]
    exact fun _ => not_mem_of_mem_pieces
  have inRight : ∀ piece ∈ first :: later, separator ∉ piece := by
    rw [← opening]
    exact fun _ => not_mem_of_mem_pieces
  have joined : left ++ right = [separator].intercalate (front ++ (last ++ first) :: later) := by
    rw [intercalate_join, ← ending, ← opening, intercalate_pieces, intercalate_pieces]
  rw [joined]
  apply pieces_intercalate (by simp)
  simp only [List.mem_append, List.mem_cons, List.not_mem_nil, or_false] at inLeft inRight ⊢
  rintro piece (inside | rfl | inside)
  · exact inLeft piece (Or.inl inside)
  · intro held
    rcases List.mem_append.mp held with before | behind
    · exact inLeft last (Or.inr rfl) before
    · exact inRight first (Or.inl rfl) behind
  · exact inRight piece (Or.inr inside)

/-- A separator between two texts keeps their pieces apart. -/
theorem pieces_append_separated (left right : Text) :
    pieces separator (left ++ separator :: right) =
      pieces separator left ++ pieces separator right := by
  have opening : pieces separator (separator :: right) = [] :: pieces separator right := if_pos rfl
  cases List.eq_nil_or_concat (pieces separator left) with
  | inl none => exact absurd none (pieces_ne_nil separator left)
  | inr split =>
      obtain ⟨front, last, ending⟩ := split
      rw [List.concat_eq_append] at ending
      rw [pieces_append ending opening, ending]
      simp

theorem length_pieces (separator : Char) (text : Text) :
    (pieces separator text).length = text.count separator + 1 := by
  induction text with
  | nil => rfl
  | cons character rest ih =>
      rw [pieces_cons]
      unfold consPiece
      by_cases ends : character = separator
      · rw [if_pos ends, ends, List.length_cons, ih, List.count_cons_self]
      · rw [if_neg ends, List.count_cons_of_ne ends, ← ih]
        cases parts : pieces separator rest with
        | nil => exact absurd parts (pieces_ne_nil separator rest)
        | cons piece later => rfl

theorem intercalate_append (joint : Text) (front : List Text) {later : List Text}
    (inhabited : later ≠ []) :
    joint.intercalate (front ++ later) =
      (front.flatMap fun part => part ++ joint) ++ joint.intercalate later := by
  induction front with
  | nil => rfl
  | cons part others ih =>
      rw [List.cons_append, List.intercalate_cons_of_ne_nil (by simp [inhabited]), ih]
      simp

theorem flatMap_ended (joint : Text) {parts : List Text} (inhabited : parts ≠ []) :
    (parts.flatMap fun part => part ++ joint) = joint.intercalate parts ++ joint := by
  induction parts with
  | nil => contradiction
  | cons part later ih =>
      cases later with
      | nil => simp
      | cons next others =>
          rw [List.flatMap_cons, ih (List.cons_ne_nil next others), List.intercalate_cons_cons]
          simp

end RepeatScan.Text
