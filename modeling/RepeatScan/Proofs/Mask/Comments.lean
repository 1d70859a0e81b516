import RepeatScan.Mask
import RepeatScan.Proofs.Text.Lines
import RepeatScan.Proofs.Text.Thinning

set_option autoImplicit false

/-! Comments only go. Whatever the markers are, a text without its comments is what is left when
characters are taken out of it, so it has no more lines than before. No newline goes unless a marker
holds one. -/

namespace RepeatScan

namespace Comment

open Text (Thinned)

variable {goes : Char → Prop} {whole kept rest : Text} {character : Char}

private theorem read_dropped (gone : goes character)
    (read : Thinned goes (kept.reverse ++ character :: rest) whole) :
    Thinned goes (kept.reverse ++ rest) whole :=
  ((Thinned.drop gone (Thinned.refl rest)).append_left kept.reverse).trans read

private theorem read_kept (read : Thinned goes (kept.reverse ++ character :: rest) whole) :
    Thinned goes ((character :: kept).reverse ++ rest) whole := by
  rw [List.reverse_cons, List.append_assoc]
  exact read

-- Inside a block nothing is decided yet: both what is kept so far and the text from the opening on have
-- to be left of the whole.
private theorem dropBlocksFrom_thinned (all : ∀ character, character ≠ '\n' → goes character)
    (kept : Text) (block : Option (Text × Text)) (text : Text)
    (read : Thinned goes (kept.reverse ++ text) whole)
    (opened : ∀ before opening, block = some (before, opening) →
      Thinned goes (before.reverse ++ opening) whole) :
    Thinned goes (dropBlocksFrom kept block text) whole := by
  have slash : goes '/' := all '/' (by decide)
  have star : goes '*' := all '*' (by decide)
  fun_induction dropBlocksFrom kept block text with
  | case1 kept rest ih =>
      apply ih (read_dropped star (read_dropped slash read))
      intro before opening same
      obtain ⟨rfl, rfl⟩ := Prod.mk.inj (Option.some.inj same)
      exact read
  | case2 kept character rest _ ih =>
      apply ih (read_kept read)
      intro before opening impossible
      cases impossible
  | case3 kept =>
      rw [List.append_nil] at read
      exact read
  | case4 kept block rest ih =>
      apply ih (read_dropped slash (read_dropped star read))
      intro before opening impossible
      cases impossible
  | case5 kept block rest ih => exact ih (read_kept read) opened
  | case6 kept block character rest _ plain ih =>
      exact ih (read_dropped (all character plain) read) opened
  | case7 kept before opening => exact opened before opening rfl

/-- Block comments go, and their newlines stay. -/
theorem dropBlocks_thinned (text : Text) : Thinned (· ≠ '\n') (dropBlocks text) text := by
  apply dropBlocksFrom_thinned (fun _ plain => plain) [] none text (Thinned.refl text)
  intro before opening impossible
  cases impossible

-- What is still to come of a marker may go, wherever the marker was found.
private theorem dropLineCommentsFrom_thinned {markers : List Text}
    (all : ∀ character, character ≠ '\n' → goes character)
    (marked : ∀ marker ∈ markers, ∀ character ∈ marker, goes character) (kept : Text)
    (inside : Option Nat) (text : Text)
    (coming : ∀ more, inside = some more → ∀ character ∈ text.take more, goes character)
    (read : Thinned goes (kept.reverse ++ text) whole) :
    Thinned goes (dropLineCommentsFrom markers kept inside text) whole := by
  fun_induction dropLineCommentsFrom markers kept inside text with
  | case1 kept =>
      rw [List.append_nil] at read
      exact read
  | case2 kept more character rest ih =>
      have going := coming (more + 1) rfl
      rw [List.take_succ_cons] at going
      refine ih ?_ (read_dropped (going character List.mem_cons_self) read)
      intro other same
      obtain rfl := Option.some.inj same
      exact fun next member => going next (List.mem_cons_of_mem character member)
  | case3 kept inside character rest _ stays ih =>
      refine ih ?_ (read_dropped (all character stays.2) read)
      intro more same
      obtain rfl := Option.some.inj same
      simp
  | case4 kept inside character rest _ _ _ ih =>
      exact ih (by simp) (read_kept read)
  | case5 kept inside rest _ _ _ ih =>
      exact ih (by simp) (read_kept read)
  | case6 kept inside character rest _ _ _ plain ih =>
      refine ih ?_ (read_dropped (all character plain) read)
      intro more same
      obtain rfl := Option.some.inj same
      simp
  | case7 kept inside character rest _ _ first marker found ih =>
      have going := marked _ (List.mem_of_find?_eq_some found)
      have stands := List.find?_some found
      obtain ⟨same, leading⟩ := List.cons_prefix_cons.mp (List.isPrefixOf_iff_prefix.mp stands)
      refine ih ?_ (read_dropped (going character (by simp [same])) read)
      intro more same
      obtain rfl := Option.some.inj same
      rw [← List.prefix_iff_eq_take.mp leading]
      exact fun next member => going next (List.mem_cons_of_mem first member)

theorem dropLineComments_thinned {markers : List Text}
    (all : ∀ character, character ≠ '\n' → goes character)
    (marked : ∀ marker ∈ markers, ∀ character ∈ marker, goes character) (text : Text) :
    Thinned goes (dropLineComments markers text) text :=
  dropLineCommentsFrom_thinned all marked [] none text (by simp) (Thinned.refl text)

end Comment

namespace Mask

/-- A text without its block comments, if the mask drops those. -/
def withoutBlocks (mask : Mask) (text : Text) : Text :=
  if mask.dropsBlocks then Comment.dropBlocks text else text

theorem withoutComments_eq (mask : Mask) (text : Text) :
    mask.withoutComments text =
      Comment.dropLineComments mask.markers (mask.withoutBlocks text) := rfl

theorem withoutBlocks_thinned (mask : Mask) (text : Text) :
    Text.Thinned (· ≠ '\n') (mask.withoutBlocks text) text := by
  unfold withoutBlocks
  cases mask.dropsBlocks with
  | true => exact Comment.dropBlocks_thinned text
  | false => exact Text.Thinned.refl text

theorem withoutComments_sublist (mask : Mask) (text : Text) :
    (mask.withoutComments text).Sublist text := by
  have anything : Text.Thinned (fun _ => True) (mask.withoutComments text)
      (mask.withoutBlocks text) :=
    Comment.dropLineComments_thinned (by simp) (by simp) (mask.withoutBlocks text)
  exact anything.sublist.trans (mask.withoutBlocks_thinned text).sublist

/-- A text has no more lines without its comments. -/
theorem length_lines_withoutComments_le (mask : Mask) (text : Text) :
    (Text.lines (mask.withoutComments text)).length ≤ (Text.lines text).length :=
  Text.length_lines_le_of_sublist (mask.withoutComments_sublist text)

/-- No newline goes with the comments when no marker holds one. -/
theorem withoutComments_thinned {mask : Mask}
    (single : ∀ marker ∈ mask.markers, '\n' ∉ marker) (text : Text) :
    Text.Thinned (· ≠ '\n') (mask.withoutComments text) text := by
  refine Text.Thinned.trans (Comment.dropLineComments_thinned (fun _ plain => plain) ?_ _)
    (mask.withoutBlocks_thinned text)
  intro marker listed character inside same
  rw [same] at inside
  exact single marker listed inside

end Mask

end RepeatScan
