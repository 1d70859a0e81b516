import RepeatScan.Proofs.Text.Lexemes
import RepeatScan.Proofs.Text.Pieces

set_option autoImplicit false

/-! Passages of a text. A passage reaches from the start of one line to the end of another, with every
line break in between as it stands. Main statement: lines of the text from one to another have exactly
one passage. -/

namespace RepeatScan.Text

variable {first last : Nat} {text : Text}

/-- The part of a text from the start of one line to the end of another, lines counted from one. What
ends the last line is no part of it: a newline with the carriage return right before it, a newline without
one, or the end of the text. -/
def IsPassage (first last : Nat) (text passage : Text) : Prop :=
  ∃ before ending after, text = before ++ passage ++ ending ++ after ∧
    (before = [] ∨ before.getLast? = some '\n') ∧ before.count '\n' + 1 = first ∧
    passage.count '\n' + first = last ∧
    (ending = ['\r', '\n'] ∨ (ending = ['\n'] ∧ passage.getLast? ≠ some '\r') ∨
      (ending = [] ∧ after = []))

/-- The pieces of the lines from one to another. -/
def rawLines (first last : Nat) (text : Text) : List Text :=
  ((pieces '\n' text).take last).drop (first - 1)

/-- The lines from one to another with the line breaks between them; the last line loses its carriage
return when a newline ends it. -/
def passage (first last : Nat) (text : Text) : Text :=
  if last < (pieces '\n' text).length then dropReturn (['\n'].intercalate (rawLines first last text))
  else ['\n'].intercalate (rawLines first last text)

theorem dropReturn_of_getLast? {line : Text} (other : line.getLast? ≠ some '\r') :
    dropReturn line = line :=
  if_neg other

theorem count_dropReturn (line : Text) : (dropReturn line).count '\n' = line.count '\n' := by
  cases dropReturn_cases line with
  | inl same => rw [same]
  | inr returned =>
      conv => rhs; rw [returned]
      simp

/-- Lines in front of a text that end with newlines. -/
theorem exists_pieces_eq {before : Text} (ended : before = [] ∨ before.getLast? = some '\n')
    (rest : Text) :
    ∃ front, front.length = before.count '\n' ∧
      pieces '\n' (before ++ rest) = front ++ pieces '\n' rest := by
  cases ended with
  | inl none =>
      subst none
      exact ⟨[], rfl, rfl⟩
  | inr newline =>
      obtain ⟨front, rfl⟩ := List.getLast?_eq_some_iff.mp newline
      refine ⟨pieces '\n' front, ?_, ?_⟩
      · rw [length_pieces, List.count_append, List.count_singleton_self]
      · rw [List.append_assoc, List.singleton_append, pieces_append_separated]

theorem count_flatMap_ended {front : List Text} (flat : ∀ line ∈ front, '\n' ∉ line) :
    (front.flatMap fun line => line ++ ['\n']).count '\n' = front.length := by
  have counted := length_pieces '\n' (front.flatMap fun line => line ++ ['\n'])
  rw [pieces_flatMap_ended flat, List.length_append, List.length_singleton] at counted
  exact (Nat.succ.inj counted).symm

theorem count_intercalate {lines : List Text} (inhabited : lines ≠ [])
    (flat : ∀ line ∈ lines, '\n' ∉ line) :
    (['\n'].intercalate lines).count '\n' + 1 = lines.length := by
  rw [← length_pieces, pieces_intercalate inhabited flat]

section Uniqueness

variable {before found ending after : Text}

/-- The pieces of a text with a passage in it, before the passage, in it and behind it. -/
theorem exists_pieces_of_ending
    (closed : ending = ['\r', '\n'] ∨ (ending = ['\n'] ∧ found.getLast? ≠ some '\r') ∨
      (ending = [] ∧ after = [])) :
    ∃ whole later, pieces '\n' (found ++ ending ++ after) = pieces '\n' whole ++ later ∧
      whole.count '\n' = found.count '\n' ∧
      found = if later = [] then whole else dropReturn whole := by
  rcases closed with rfl | ⟨rfl, other⟩ | ⟨rfl, rfl⟩
  · refine ⟨found ++ ['\r'], pieces '\n' after, ?_, by simp, ?_⟩
    · rw [← pieces_append_separated]
      simp
    · rw [if_neg (pieces_ne_nil '\n' after), dropReturn_append_return]
  · refine ⟨found, pieces '\n' after, ?_, rfl, ?_⟩
    · rw [← pieces_append_separated]
      simp
    · rw [if_neg (pieces_ne_nil '\n' after), dropReturn_of_getLast? other]
  · exact ⟨found, [], by simp, rfl, rfl⟩

end Uniqueness

theorem eq_passage_of_isPassage {found : Text} (stands : IsPassage first last text found) :
    found = passage first last text := by
  obtain ⟨before, ending, after, rfl, ended, opens, reaches, closed⟩ := stands
  obtain ⟨whole, later, split, newlines, same⟩ := exists_pieces_of_ending closed
  obtain ⟨front, size, parts⟩ := exists_pieces_eq ended (found ++ ending ++ after)
  rw [split] at parts
  have grouped : before ++ found ++ ending ++ after = before ++ (found ++ ending ++ after) := by
    simp
  have reach : (front ++ pieces '\n' whole).length = last := by
    rw [List.length_append, length_pieces]
    omega
  have lines : rawLines first last (before ++ found ++ ending ++ after) = pieces '\n' whole := by
    unfold rawLines
    rw [grouped, parts, ← List.append_assoc, List.take_append_of_le_length (Nat.le_of_eq reach.symm),
      List.take_of_length_le (Nat.le_of_eq reach), List.drop_left' (by omega)]
  have total : last < (pieces '\n' (before ++ found ++ ending ++ after)).length ↔ later ≠ [] := by
    rw [grouped, parts, ← List.append_assoc, List.length_append, reach, ← List.length_pos_iff]
    omega
  unfold passage
  rw [lines, intercalate_pieces]
  by_cases none : later = []
  · rw [if_pos none] at same
    rw [if_neg fun more => total.mp more none, same]
  · rw [if_neg none] at same
    rw [if_pos (total.mpr none), same]

/-- Where a text is cut into lines, those in the middle are a passage. -/
theorem isPassage_of_pieces {front middle later : List Text}
    (parts : pieces '\n' text = front ++ (middle ++ later)) (inhabited : middle ≠ []) :
    IsPassage (front.length + 1) (front.length + middle.length) text
      (if later = [] then ['\n'].intercalate middle
        else dropReturn (['\n'].intercalate middle)) := by
  have flat : ∀ line ∈ front ++ (middle ++ later), '\n' ∉ line := by
    rw [← parts]
    exact fun _ => not_mem_of_mem_pieces
  have opening : text = (front.flatMap fun line => line ++ ['\n']) ++
      ['\n'].intercalate (middle ++ later) := by
    rw [← intercalate_append ['\n'] front (by simp [inhabited]), ← parts, intercalate_pieces]
  have ended : (front.flatMap fun line => line ++ ['\n']) = [] ∨
      (front.flatMap fun line => line ++ ['\n']).getLast? = some '\n' := by
    by_cases none : front = []
    · exact Or.inl (by simp [none])
    · exact Or.inr (by rw [flatMap_ended ['\n'] none]; simp)
  have before : (front.flatMap fun line => line ++ ['\n']).count '\n' = front.length :=
    count_flatMap_ended fun line listed => flat line (by simp [listed])
  have newlines := count_intercalate inhabited fun line listed => flat line (by simp [listed])
  by_cases none : later = []
  · rw [if_pos none]
    subst none
    rw [List.append_nil] at opening
    exact ⟨_, [], [], by simpa using opening, ended, by rw [before], by omega,
      Or.inr (Or.inr ⟨rfl, rfl⟩)⟩
  · rw [if_neg none]
    rw [intercalate_append ['\n'] middle none, flatMap_ended ['\n'] inhabited] at opening
    rw [← count_dropReturn] at newlines
    by_cases returned : (['\n'].intercalate middle).getLast? = some '\r'
    · obtain ⟨joined, same⟩ := List.getLast?_eq_some_iff.mp returned
      rw [same, dropReturn_append_return] at newlines ⊢
      rw [same] at opening
      exact ⟨_, ['\r', '\n'], ['\n'].intercalate later, by simpa using opening, ended,
        by rw [before], by omega, Or.inl rfl⟩
    · rw [dropReturn_of_getLast? returned] at newlines ⊢
      exact ⟨_, ['\n'], ['\n'].intercalate later, by simpa using opening, ended, by rw [before],
        by omega, Or.inr (Or.inl ⟨rfl, returned⟩)⟩

theorem newline_not_mem_of_mem_rawLines {line : Text} (member : line ∈ rawLines first last text) :
    '\n' ∉ line :=
  not_mem_of_mem_pieces (List.mem_of_mem_take (List.mem_of_mem_drop member))

theorem pieces_eq_around_rawLines (text : Text) (ordered : first ≤ last) :
    pieces '\n' text = (pieces '\n' text).take (first - 1) ++
      (rawLines first last text ++ (pieces '\n' text).drop last) := by
  have shorter : (pieces '\n' text).take (first - 1) =
      ((pieces '\n' text).take last).take (first - 1) := by
    rw [List.take_take, Nat.min_eq_left (by omega)]
  have upTo : (pieces '\n' text).take (first - 1) ++ rawLines first last text =
      (pieces '\n' text).take last := by
    rw [shorter, rawLines, List.take_append_drop]
  rw [← List.append_assoc, upTo, List.take_append_drop]

section Within

variable (least : 1 ≤ first) (ordered : first ≤ last) (within : last ≤ (pieces '\n' text).length)

include least ordered within

theorem length_rawLines : (rawLines first last text).length = last + 1 - first := by
  unfold rawLines
  rw [List.length_drop, List.length_take]
  omega

theorem rawLines_ne_nil : rawLines first last text ≠ [] := by
  have long := length_rawLines least ordered within
  apply List.ne_nil_of_length_pos
  omega

/-- The passage stands in the text, from its first line to its last. -/
theorem isPassage_passage : IsPassage first last text (passage first last text) := by
  have stands := isPassage_of_pieces (pieces_eq_around_rawLines text ordered)
    (rawLines_ne_nil least ordered within)
  rw [length_rawLines least ordered within, List.length_take, Nat.min_eq_left (by omega)] at stands
  have opens : first - 1 + 1 = first := by omega
  have reaches : first - 1 + (last + 1 - first) = last := by omega
  have behind : (pieces '\n' text).drop last = [] ↔ ¬ last < (pieces '\n' text).length := by
    rw [List.drop_eq_nil_iff]
    omega
  rw [opens, reaches] at stands
  simpa only [passage, behind, ite_not] using stands

/-- Lines of the text from one to another have one passage. -/
theorem isPassage_iff {found : Text} :
    IsPassage first last text found ↔ found = passage first last text := by
  constructor
  · exact eq_passage_of_isPassage
  · intro same
    rw [same]
    exact isPassage_passage least ordered within

end Within

end RepeatScan.Text
