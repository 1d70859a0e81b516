import RepeatScan.Proofs.Mask.Alignment
import RepeatScan.Proofs.Text.Pieces

set_option autoImplicit false

/-! Line comments. Whatever the markers are and however they are listed, every line is cut at the
first place where one of them stands. So the order of the list does not matter, nor does a marker
that another one is the beginning of. -/

namespace RepeatScan

theorem Text.prefix_append_iff {marker front rest : Text}
    (absent : ∀ next ∈ rest.head?, next ∉ marker) :
    marker <+: front ++ rest ↔ marker <+: front := by
  constructor
  · intro leading
    rcases Nat.lt_or_ge front.length marker.length with longer | short
    · -- the marker would reach over a character that it does not hold
      obtain ⟨later, same⟩ := leading
      have stands : (marker ++ later)[front.length]? = rest.head? := by
        rw [same, List.getElem?_append_right (Nat.le_refl _), Nat.sub_self, List.head?_eq_getElem?]
      rw [List.getElem?_append_left longer] at stands
      have held : marker[front.length] ∈ marker := List.getElem_mem longer
      rw [List.getElem?_eq_getElem longer] at stands
      exact absurd held (absent _ stands.symm)
    · exact List.prefix_of_prefix_length_le leading (List.prefix_append front _) short
  · intro leading
    exact leading.trans (List.prefix_append front _)

namespace Comment

variable {markers : List Text}

/-- A marker stands at the start of a text. -/
def marked (markers : List Text) (text : Text) : Bool :=
  markers.any (·.isPrefixOf text)

theorem marked_iff {text : Text} : marked markers text = true ↔ ∃ marker ∈ markers, marker <+: text := by
  simp [marked]

/-- The part of a line before the first marker. -/
def unmarked (markers : List Text) : Text → Text
  | [] => []
  | character :: rest =>
      if marked markers (character :: rest) then [] else character :: unmarked markers rest

/-- A line is cut at the first place where a marker stands, and not at all if there is none. -/
structure Cut (markers : List Text) (line left : Text) : Prop where
  leading : left <+: line
  clear : ∀ position < left.length, ∀ marker ∈ markers, ¬ marker <+: line.drop position
  stops : left = line ∨ ∃ marker ∈ markers, marker <+: line.drop left.length

theorem cut_unmarked (markers : List Text) (line : Text) :
    Cut markers line (unmarked markers line) := by
  induction line with
  | nil => exact ⟨List.prefix_refl [], by simp [unmarked], Or.inl rfl⟩
  | cons character rest ih =>
      unfold unmarked
      by_cases found : marked markers (character :: rest) = true
      · rw [if_pos found]
        exact ⟨List.nil_prefix, by simp, Or.inr (marked_iff.mp found)⟩
      · rw [if_neg found]
        refine ⟨(List.prefix_cons_inj character).mpr ih.leading, ?_, ?_⟩
        · intro position inside marker listed stands
          cases position with
          | zero => exact found (marked_iff.mpr ⟨marker, listed, stands⟩)
          | succ position =>
              exact ih.clear position (Nat.lt_of_succ_lt_succ inside) marker listed stands
        · rcases ih.stops with same | stops
          · rw [same]
            exact Or.inl rfl
          · exact Or.inr stops

theorem Cut.not_isInfix {line left marker : Text} (cut : Cut markers line left)
    (listed : marker ∈ markers) (inhabited : marker ≠ []) : ¬ marker <:+: left := by
  intro inside
  obtain ⟨before, behind, rfl⟩ := inside
  obtain ⟨gone, rfl⟩ := cut.leading
  have positive := List.length_pos_iff.mpr inhabited
  refine cut.clear before.length (by simp only [List.length_append]; omega) marker listed ?_
  rw [List.append_assoc, List.append_assoc, List.drop_left]
  exact List.prefix_append marker _

theorem unmarked_congr {others : List Text} (same : ∀ text, marked markers text = marked others text)
    (line : Text) : unmarked markers line = unmarked others line := by
  induction line with
  | nil => rfl
  | cons character rest ih => rw [unmarked, unmarked, same, ih]

/-- A list of markers is amended when it is put in another order, when one of it is listed again, and
when one is added that begins with a marker of it. -/
inductive Amended : List Text → List Text → Prop
  | reorder {markers others : List Text} (same : markers.Perm others) : Amended markers others
  | again {marker : Text} {markers : List Text} (listed : marker ∈ markers) :
      Amended markers (marker :: markers)
  | longer {marker added : Text} {markers : List Text} (listed : marker ∈ markers)
      (begins : marker <+: added) : Amended markers (added :: markers)
  | trans {markers middle others : List Text} (first : Amended markers middle)
      (second : Amended middle others) : Amended markers others

theorem marked_cons {marker added : Text} (listed : marker ∈ markers) (begins : marker <+: added)
    (text : Text) : marked markers text = marked (added :: markers) text := by
  rw [Bool.eq_iff_iff, marked_iff, marked_iff]
  constructor
  · rintro ⟨found, inside, leading⟩
    exact ⟨found, List.mem_cons_of_mem added inside, leading⟩
  · rintro ⟨found, inside, leading⟩
    rcases List.mem_cons.mp inside with rfl | earlier
    · exact ⟨marker, listed, begins.trans leading⟩
    · exact ⟨found, earlier, leading⟩

theorem Amended.marked_eq {others : List Text} (amended : Amended markers others) (text : Text) :
    marked markers text = marked others text := by
  induction amended with
  | reorder same => exact same.any_eq
  | again listed => exact marked_cons listed (List.prefix_refl _) text
  | longer listed begins => exact marked_cons listed begins text
  | trans _ _ first second => exact first.trans second

/-! ### The scan -/

theorem dropLineCommentsFrom_behind {character : Char} (other : character ≠ '\n')
    (kept rest : Text) :
    dropLineCommentsFrom markers kept (some 0) (character :: rest) =
      dropLineCommentsFrom markers kept (some 0) rest := by
  rw [dropLineCommentsFrom]
  · rw [if_pos ⟨rfl, other⟩]
  · intro more impossible
    cases impossible

theorem dropLineCommentsFrom_keep {inside : Option Nat} {character : Char} {rest : Text}
    (free : inside = none ∨ inside = some 0 ∧ character = '\n')
    (clear : marked markers (character :: rest) = false) (kept : Text) :
    dropLineCommentsFrom markers kept inside (character :: rest) =
      dropLineCommentsFrom markers (character :: kept) none rest := by
  have none : markers.find? (·.isPrefixOf (character :: rest)) = none := by
    simpa [marked] using clear
  rcases free with rfl | ⟨rfl, rfl⟩ <;> simp [dropLineCommentsFrom, none]

theorem dropLineCommentsFrom_marker {character : Char} {rest : Text}
    (plain : ∀ marker ∈ markers, marker ≠ []) (found : marked markers (character :: rest) = true)
    (kept : Text) :
    ∃ marker, character :: marker ∈ markers ∧ marker <+: rest ∧
      dropLineCommentsFrom markers kept none (character :: rest) =
        dropLineCommentsFrom markers kept (some marker.length) rest := by
  have some : (markers.find? (·.isPrefixOf (character :: rest))).isSome = true := by
    simpa [marked] using found
  obtain ⟨whole, first⟩ := Option.isSome_iff_exists.mp some
  have listed := List.mem_of_find?_eq_some first
  have stands := List.find?_some first
  have leading := List.isPrefixOf_iff_prefix.mp stands
  cases whole with
  | nil => exact absurd rfl (plain [] listed)
  | cons opening marker =>
      obtain ⟨rfl, later⟩ := List.cons_prefix_cons.mp leading
      refine ⟨marker, listed, later, ?_⟩
      simp [dropLineCommentsFrom, first]

theorem dropLineCommentsFrom_comment {line : Text} (single : '\n' ∉ line) {more : Nat}
    (within : more ≤ line.length) (kept rest : Text) :
    dropLineCommentsFrom markers kept (some more) (line ++ rest) =
      dropLineCommentsFrom markers kept (some 0) rest := by
  induction line generalizing more with
  | nil =>
      rw [Nat.le_zero.mp within]
      rfl
  | cons character later ih =>
      obtain ⟨other, behind⟩ := List.ne_and_not_mem_of_not_mem_cons single
      cases more with
      | zero =>
          rw [List.cons_append, dropLineCommentsFrom_behind other.symm]
          exact ih behind (Nat.zero_le _)
      | succ more =>
          rw [List.cons_append, dropLineCommentsFrom]
          exact ih behind (Nat.le_of_succ_le_succ within)

theorem marked_append {front rest : Text}
    (absent : ∀ marker ∈ markers, ∀ next ∈ rest.head?, next ∉ marker) :
    marked markers (front ++ rest) = marked markers front := by
  rw [Bool.eq_iff_iff, marked_iff, marked_iff]
  constructor
  · rintro ⟨marker, listed, leading⟩
    exact ⟨marker, listed, (Text.prefix_append_iff (absent marker listed)).mp leading⟩
  · rintro ⟨marker, listed, leading⟩
    exact ⟨marker, listed, (Text.prefix_append_iff (absent marker listed)).mpr leading⟩

/-- The scan of a line leaves what stands before its first marker. -/
theorem dropLineCommentsFrom_line {line rest : Text} (inhabited : ∀ marker ∈ markers, marker ≠ [])
    (absent : ∀ marker ∈ markers, ∀ next ∈ rest.head?, next ∉ marker) (single : '\n' ∉ line)
    (kept : Text) :
    ∃ inside, (inside = none ∨ inside = some 0) ∧
      dropLineCommentsFrom markers kept none (line ++ rest) =
        dropLineCommentsFrom markers ((unmarked markers line).reverse ++ kept) inside rest := by
  induction line generalizing kept with
  | nil => exact ⟨none, Or.inl rfl, rfl⟩
  | cons character later ih =>
      have behind : '\n' ∉ later := fun inside => single (List.mem_cons_of_mem character inside)
      have same : marked markers (character :: later ++ rest) = marked markers (character :: later) :=
        marked_append absent
      rw [List.cons_append] at same ⊢
      rw [unmarked]
      cases found : marked markers (character :: later) with
      | true =>
          obtain ⟨marker, listed, leading, next⟩ :=
            dropLineCommentsFrom_marker inhabited (same.trans found) kept
          have within : marker <+: later := by
            apply (Text.prefix_append_iff ?_).mp leading
            intro other opening held
            exact absent _ listed other opening (List.mem_cons_of_mem character held)
          refine ⟨some 0, Or.inr rfl, ?_⟩
          rw [next, dropLineCommentsFrom_comment behind within.length_le]
          rfl
      | false =>
          obtain ⟨inside, free, scanned⟩ := ih behind (character :: kept)
          refine ⟨inside, free, ?_⟩
          rw [dropLineCommentsFrom_keep (Or.inl rfl) (same.trans found), scanned]
          simp

section Lines

variable (plain : ∀ marker ∈ markers, marker ≠ [] ∧ '\n' ∉ marker)

include plain

private theorem marked_newline (rest : Text) : marked markers ('\n' :: rest) = false := by
  rw [Bool.eq_false_iff, Ne, marked_iff]
  rintro ⟨marker, listed, leading⟩
  obtain ⟨inhabited, single⟩ := plain marker listed
  cases marker with
  | nil => exact inhabited rfl
  | cons first later =>
      rw [(List.cons_prefix_cons.mp leading).1] at single
      exact single List.mem_cons_self

private theorem dropLineCommentsFrom_lines (parts : List Text) (single : ∀ part ∈ parts, '\n' ∉ part)
    (kept : Text) :
    dropLineCommentsFrom markers kept none (['\n'].intercalate parts) =
      kept.reverse ++ ['\n'].intercalate (parts.map (unmarked markers)) := by
  have inhabited : ∀ marker ∈ markers, marker ≠ [] := fun marker listed => (plain marker listed).1
  induction parts generalizing kept with
  | nil => simp [dropLineCommentsFrom]
  | cons part later ih =>
      have first : '\n' ∉ part := single part List.mem_cons_self
      cases later with
      | nil =>
          have absent : ∀ marker ∈ markers, ∀ other ∈ ([] : Text).head?, other ∉ marker := by simp
          obtain ⟨inside, _, scanned⟩ := dropLineCommentsFrom_line inhabited absent first kept
          rw [List.append_nil] at scanned
          simp [scanned, dropLineCommentsFrom]
      | cons next others =>
          have absent : ∀ marker ∈ markers,
              ∀ other ∈ ('\n' :: ['\n'].intercalate (next :: others)).head?, other ∉ marker := by
            intro marker listed other opening
            obtain rfl := Option.some.inj opening
            exact (plain marker listed).2
          obtain ⟨inside, free, scanned⟩ := dropLineCommentsFrom_line inhabited absent first kept
          have ends : inside = none ∨ inside = some 0 ∧ '\n' = '\n' := by simpa using free
          have rest : ∀ part ∈ next :: others, '\n' ∉ part := by
            intro other listed
            exact single other (List.mem_cons_of_mem part listed)
          rw [List.intercalate_cons_cons, List.append_assoc, List.singleton_append, scanned,
            dropLineCommentsFrom_keep ends (marked_newline plain _), ih rest]
          simp only [List.map_cons, List.intercalate_cons_cons]
          simp

/-- Dropping line comments cuts each line at its first marker. -/
theorem pieces_dropLineComments (text : Text) :
    Text.pieces '\n' (dropLineComments markers text) =
      (Text.pieces '\n' text).map (unmarked markers) := by
  have single : ∀ part ∈ Text.pieces '\n' text, '\n' ∉ part := fun _ => Text.not_mem_of_mem_pieces
  have scanned := dropLineCommentsFrom_lines plain (Text.pieces '\n' text) single []
  rw [Text.intercalate_pieces] at scanned
  unfold dropLineComments
  rw [scanned, List.reverse_nil, List.nil_append]
  apply Text.pieces_intercalate
  · simpa using Text.pieces_ne_nil '\n' text
  · intro part listed
    obtain ⟨line, member, rfl⟩ := List.mem_map.mp listed
    intro held
    exact single line member ((cut_unmarked markers line).leading.subset held)

end Lines

/-- The lists that mark the same places drop the same comments. -/
theorem dropLineComments_congr {others : List Text}
    (plain : ∀ marker ∈ markers, marker ≠ [] ∧ '\n' ∉ marker)
    (others_plain : ∀ other ∈ others, other ≠ [] ∧ '\n' ∉ other)
    (same : ∀ text, marked markers text = marked others text) (text : Text) :
    dropLineComments markers text = dropLineComments others text := by
  rw [← Text.intercalate_pieces '\n' (dropLineComments markers text),
    ← Text.intercalate_pieces '\n' (dropLineComments others text), pieces_dropLineComments plain,
    pieces_dropLineComments others_plain, funext (unmarked_congr same)]

end Comment

namespace Mask

variable {mask : Mask} {markers : List Text} {dropsBlocks : Bool} {placeholder : Text}

theorem plain_of_solid (solid : ∀ marker ∈ markers, Settings.isSolid marker = true) :
    ∀ marker ∈ markers, marker ≠ [] ∧ '\n' ∉ marker := by
  intro marker listed
  have known := solid marker listed
  exact ⟨(Settings.isSolid_iff.mp known).1, Settings.newline_not_mem known⟩

/-- With solid markers every line without comments is the line without blocks, cut at its first marker,
and no lexeme that is left holds a marker. Amending the list of markers changes the masked lines of no
text. -/
theorem cuts_of_build [Platform] (solid : ∀ marker ∈ markers, Settings.isSolid marker = true)
    (built : build markers dropsBlocks placeholder = .ok mask) :
    (∀ text,
      List.Forall₂ (Comment.Cut markers) (Text.pieces '\n' (mask.withoutBlocks text))
          (Text.pieces '\n' (mask.withoutComments text)) ∧
        (∀ left ∈ Text.pieces '\n' (mask.withoutComments text), ∀ marker ∈ markers,
          ¬ marker <:+: left) ∧
        (mask.tokenStream text).tokens =
          (lexemes (mask.withoutComments text)).flatMap (fun lexeme =>
            if isName lexeme then words placeholder else [lexeme]) ∧
        ∀ lexeme ∈ lexemes (mask.withoutComments text), ∀ marker ∈ markers, ¬ marker <:+: lexeme) ∧
      ∀ others another, Comment.Amended markers others →
        (∀ other ∈ others, Settings.isSolid other = true) →
        build others dropsBlocks placeholder = .ok another →
          ∀ text, another.maskLines text = mask.maskLines text ∧
            another.tokenStream text = mask.tokenStream text := by
  obtain rfl := eq_of_build built
  have plain := plain_of_solid solid
  constructor
  · intro text
    have lines : List.Forall₂ (Comment.Cut markers)
        (Text.pieces '\n' (withoutBlocks ⟨markers, dropsBlocks, placeholder⟩ text))
        (Text.pieces '\n' (withoutComments ⟨markers, dropsBlocks, placeholder⟩ text)) := by
      rw [withoutComments_eq, Comment.pieces_dropLineComments plain, List.forall₂_map_right_iff,
        List.forall₂_same]
      exact fun line _ => Comment.cut_unmarked markers line
    have clear : ∀ left ∈ Text.pieces '\n' (withoutComments ⟨markers, dropsBlocks, placeholder⟩ text),
        ∀ marker ∈ markers, ¬ marker <:+: left := by
      intro left member marker listed
      rw [withoutComments_eq, Comment.pieces_dropLineComments plain] at member
      obtain ⟨line, _, rfl⟩ := List.mem_map.mp member
      exact (Comment.cut_unmarked markers line).not_isInfix listed (plain marker listed).1
    refine ⟨lines, clear, tokens_tokenStream _ text, ?_⟩
    intro lexeme member marker listed inside
    rw [← lexemes_pieces] at member
    obtain ⟨left, cut, held⟩ := List.mem_flatMap.mp member
    exact clear left cut marker listed (inside.trans ((lexemes_read left).isInfix held))
  · intro others another amended others_solid others_built text
    obtain rfl := eq_of_build others_built
    have same : withoutComments ⟨others, dropsBlocks, placeholder⟩ text =
        withoutComments ⟨markers, dropsBlocks, placeholder⟩ text :=
      (Comment.dropLineComments_congr plain (plain_of_solid others_solid) amended.marked_eq _).symm
    have lines : maskLines ⟨others, dropsBlocks, placeholder⟩ text =
        maskLines ⟨markers, dropsBlocks, placeholder⟩ text := by
      unfold maskLines
      rw [same]
      rfl
    refine ⟨lines, ?_⟩
    unfold tokenStream
    rw [lines]

-- A longer marker is put in front of its beginning, which is listed twice.
private theorem amended_dashes :
    Comment.Amended ["--".toList, "%".toList, ".*".toList]
      ["--x".toList, ".*".toList, "--".toList, "%".toList, "--".toList] := by
  have again : Comment.Amended ["--".toList, "%".toList, ".*".toList]
      ["--".toList, "--".toList, "%".toList, ".*".toList] := .again (by decide)
  have longer : Comment.Amended ["--".toList, "--".toList, "%".toList, ".*".toList]
      ["--x".toList, "--".toList, "--".toList, "%".toList, ".*".toList] :=
    .longer List.mem_cons_self ⟨['x'], rfl⟩
  exact (again.trans longer).trans (.reorder (by decide))

theorem cuts_of_build_dashes :
    Text.pieces '\n' (withoutComments ⟨["--".toList, "%".toList, ".*".toList], true, "ID".toList⟩
        "a.b--xyz\n1 -- % 2\r\n/*\n*/3.*".toList) =
          ["a.b".toList, "1 ".toList, [], "3".toList] ∧
      List.Forall₂ (Comment.Cut ["--".toList, "%".toList, ".*".toList])
        ["a.b--xyz".toList, "1 -- % 2\r".toList, [], "3.*".toList]
        ["a.b".toList, "1 ".toList, [], "3".toList] ∧
      maskLines ⟨["--x".toList, ".*".toList, "--".toList, "%".toList, "--".toList], true, "ID".toList⟩
          "a.b--xyz\n1 -- % 2\r\n/*\n*/3.*".toList =
        maskLines ⟨["--".toList, "%".toList, ".*".toList], true, "ID".toList⟩
          "a.b--xyz\n1 -- % 2\r\n/*\n*/3.*".toList := by
  obtain ⟨cuts, same⟩ :=
    @cuts_of_build ⟨["--".toList, "%".toList, ".*".toList], true, "ID".toList⟩
      ["--".toList, "%".toList, ".*".toList] true "ID".toList _ (by decide) rfl
  have left : Text.pieces '\n' (withoutComments ⟨["--".toList, "%".toList, ".*".toList], true,
      "ID".toList⟩ "a.b--xyz\n1 -- % 2\r\n/*\n*/3.*".toList) =
        ["a.b".toList, "1 ".toList, [], "3".toList] := by
    decide +kernel
  obtain ⟨lines, _⟩ := cuts "a.b--xyz\n1 -- % 2\r\n/*\n*/3.*".toList
  rw [left] at lines
  exact ⟨left, lines, (same _ _ amended_dashes (by decide) rfl _).1⟩

end Mask

end RepeatScan
