import RepeatScan.Proofs.Text.Lexemes

set_option autoImplicit false

/-! Texts that are left when characters are taken out of another one. Where newlines stay, every line
is left of the line it was. -/

namespace RepeatScan.Text

variable {goes : Char → Prop}

/-- What is left of a text when some characters that may go are taken out of it. -/
inductive Thinned (goes : Char → Prop) : Text → Text → Prop
  | done : Thinned goes [] []
  | keep {left whole : Text} (character : Char) (later : Thinned goes left whole) :
      Thinned goes (character :: left) (character :: whole)
  | drop {character : Char} {left whole : Text} (gone : goes character)
      (later : Thinned goes left whole) : Thinned goes left (character :: whole)

namespace Thinned

theorem refl (text : Text) : Thinned goes text text := by
  induction text with
  | nil => exact done
  | cons character rest ih => exact keep character ih

theorem append_left (kept : Text) {left whole : Text} (thinned : Thinned goes left whole) :
    Thinned goes (kept ++ left) (kept ++ whole) := by
  induction kept with
  | nil => exact thinned
  | cons character rest ih => exact keep character ih

theorem trans {left middle whole : Text} (first : Thinned goes left middle)
    (second : Thinned goes middle whole) : Thinned goes left whole := by
  induction second generalizing left with
  | done => exact first
  | keep character _ ih =>
      cases first with
      | keep _ later => exact keep character (ih later)
      | drop gone later => exact drop gone (ih later)
  | drop gone _ ih => exact drop gone (ih first)

theorem sublist {left whole : Text} (thinned : Thinned goes left whole) : left.Sublist whole := by
  induction thinned with
  | done => exact List.Sublist.refl []
  | keep character _ ih => exact ih.cons_cons character
  | drop _ _ ih => exact ih.cons _

theorem count_eq {left whole : Text} (thinned : Thinned goes left whole) {stays : Char}
    (firm : ¬ goes stays) : left.count stays = whole.count stays := by
  induction thinned with
  | done => rfl
  | keep character _ ih => rw [List.count_cons, List.count_cons, ih]
  | @drop character left whole gone _ ih =>
      have other : character ≠ stays := by
        intro same
        rw [same] at gone
        exact firm gone
      rw [List.count_cons_of_ne other, ih]

/-! ### Pieces and lines -/

/-- Where the separators stay, the pieces between them stay apart. -/
theorem pieces {left whole : Text} (thinned : Thinned goes left whole) {separator : Char}
    (firm : ¬ goes separator) :
    List.Forall₂ List.Sublist (pieces separator left) (Text.pieces separator whole) := by
  induction thinned with
  | done => exact List.Forall₂.cons (List.Sublist.refl []) List.Forall₂.nil
  | keep character _ ih =>
      rw [pieces_cons, pieces_cons]
      unfold consPiece
      by_cases ends : character = separator
      · rw [if_pos ends, if_pos ends]
        exact List.Forall₂.cons (List.Sublist.refl []) ih
      · rw [if_neg ends, if_neg ends]
        generalize Text.pieces separator _ = parts at ih ⊢
        generalize Text.pieces separator _ = wholes at ih ⊢
        cases ih with
        | nil => exact List.Forall₂.cons (List.Sublist.refl _) List.Forall₂.nil
        | cons piece later => exact List.Forall₂.cons (piece.cons_cons character) later
  | @drop character left whole gone _ ih =>
      have other : character ≠ separator := by
        intro same
        rw [same] at gone
        exact firm gone
      have inhabited := pieces_ne_nil separator whole
      rw [pieces_cons]
      unfold consPiece
      rw [if_neg other]
      generalize Text.pieces separator left = parts at ih ⊢
      generalize Text.pieces separator whole = wholes at ih inhabited ⊢
      cases ih with
      | nil => contradiction
      | cons piece later => exact List.Forall₂.cons (piece.cons character) later

end Thinned

theorem dropReturn_sublist {left whole : Text} (part : left.Sublist whole) :
    (dropReturn left).Sublist (dropReturn whole) := by
  rcases dropReturn_cases whole with same | returned
  · rw [same]
    exact (isPrefix_dropReturn left).sublist.trans part
  · -- the carriage return of the whole is either taken out or the one that the line ends with
    rw [returned] at part
    obtain ⟨front, last, rfl, inFront, inLast⟩ := List.sublist_append_iff.mp part
    rcases List.sublist_singleton.mp inLast with rfl | rfl
    · rw [List.append_nil]
      exact (isPrefix_dropReturn front).sublist.trans inFront
    · rw [dropReturn_append_return]
      exact inFront

private theorem getElem?_of_forall₂ {relation : Text → Text → Prop} {parts wholes : List Text}
    (related : List.Forall₂ relation parts wholes) {position : Nat} {part : Text}
    (stands : parts[position]? = some part) :
    ∃ whole, wholes[position]? = some whole ∧ relation part whole := by
  induction related generalizing position with
  | nil => cases stands
  | @cons head whole _ _ first _ ih =>
      cases position with
      | zero =>
          obtain rfl := Option.some.inj stands
          exact ⟨whole, rfl, first⟩
      | succ position => exact ih stands

/-- The lines of a text that is left when no newline goes are each left of the line it was. -/
theorem Thinned.lines {left whole : Text} (thinned : Thinned (· ≠ '\n') left whole) :
    ∃ origins, origins <+: Text.lines whole ∧
      List.Forall₂ List.Sublist (Text.lines left) origins := by
  obtain ⟨front, last, parts, listed⟩ := exists_lines_eq left
  obtain ⟨fronts, final, wholes, wholeListed⟩ := exists_lines_eq whole
  have newline : ¬ ('\n' ≠ '\n') := by simp
  have related := List.forall₂_reverse_iff.mpr (thinned.pieces newline)
  rw [parts, wholes, List.reverse_append, List.reverse_append] at related
  obtain ⟨ending, before⟩ := List.forall₂_cons.mp related
  have fronted : List.Forall₂ List.Sublist (front.map dropReturn) (fronts.map dropReturn) := by
    rw [List.forall₂_map_left_iff, List.forall₂_map_right_iff]
    exact (List.forall₂_reverse_iff.mp before).imp fun _ _ => dropReturn_sublist
  rw [listed, wholeListed]
  cases last with
  | nil => exact ⟨fronts.map dropReturn, List.prefix_append _ _, by simpa using fronted⟩
  | cons character rest =>
      have inhabited : final ≠ [] := by
        intro empty
        rw [empty] at ending
        cases ending
      refine ⟨_, List.prefix_refl _, ?_⟩
      have single : List.Forall₂ List.Sublist [character :: rest] [final] :=
        List.Forall₂.cons ending List.Forall₂.nil
      simpa [inhabited] using List.rel_append fronted single

theorem Thinned.getElem?_lines {left whole : Text} (thinned : Thinned (· ≠ '\n') left whole)
    {position : Nat} {line : Text} (stands : (Text.lines left)[position]? = some line) :
    ∃ origin, (Text.lines whole)[position]? = some origin ∧ line.Sublist origin := by
  obtain ⟨origins, ⟨later, same⟩, related⟩ := thinned.lines
  obtain ⟨origin, found, part⟩ := getElem?_of_forall₂ related stands
  obtain ⟨inside, _⟩ := List.getElem?_eq_some_iff.mp found
  exact ⟨origin, by rw [← same, List.getElem?_append_left inside, found], part⟩

end RepeatScan.Text
