import Mathlib.Logic.Relation
import RepeatScan.Proofs.Mask.Places

set_option autoImplicit false

/-! Renaming. A name that gives way to another one leaves the masked lines as they are, as long as it
does not come to stand right behind a number or another word that is no name. Where block comments
stay, it never does; where they go, what stood on the two sides of one is joined. -/

namespace RepeatScan

namespace Text

/-- The word that a text ends with; it may be empty. -/
def wordAtEnd (text : Text) : Text :=
  (text.reverse.takeWhile isWordChar).reverse

theorem exists_wordAtEnd (text : Text) :
    ∃ front, text = front ++ wordAtEnd text ∧
      (∀ character ∈ wordAtEnd text, isWordChar character = true) ∧
        ∀ last ∈ front.getLast?, isWordChar last = false := by
  refine ⟨(text.reverse.dropWhile isWordChar).reverse, ?_, ?_, ?_⟩
  · rw [wordAtEnd, ← List.reverse_append, List.takeWhile_append_dropWhile, List.reverse_reverse]
  · intro character member
    rw [wordAtEnd, List.mem_reverse] at member
    exact List.all_eq_true.mp List.all_takeWhile character member
  · intro last ending
    rw [List.getLast?_reverse] at ending
    have stops := List.head?_dropWhile_not isWordChar text.reverse
    rw [ending] at stops
    simpa using stops

theorem wordAtEnd_eq_nil {text : Text} (maximal : ∀ last ∈ text.getLast?, isWordChar last = false) :
    wordAtEnd text = [] := by
  rw [← List.head?_reverse] at maximal
  unfold wordAtEnd
  cases reversed : text.reverse with
  | nil => rfl
  | cons last later =>
      rw [reversed] at maximal
      rw [List.takeWhile_cons_of_neg (by simp [maximal last rfl]), List.reverse_nil]

theorem wordAtEnd_append {gap : Char} (other : isWordChar gap = false) (front rest : Text) :
    wordAtEnd (front ++ gap :: rest) = wordAtEnd rest := by
  unfold wordAtEnd
  rw [List.reverse_append, List.reverse_cons, List.append_assoc, List.takeWhile_append,
    List.singleton_append, List.takeWhile_cons_of_neg (by simp [other]), List.append_nil]
  split
  · rename_i whole
    rw [(List.takeWhile_prefix isWordChar).eq_of_length whole]
  · rfl

theorem wordAtEnd_intercalate {gap : Char} (other : isWordChar gap = false) (front : List Text)
    (last : Text) : wordAtEnd ([gap].intercalate (front ++ [last])) = wordAtEnd last := by
  induction front with
  | nil => simp
  | cons part later ih =>
      rw [List.cons_append, List.intercalate_cons_of_ne_nil (by simp), List.append_assoc,
        List.singleton_append, wordAtEnd_append other, ih]

/-! ### Where a word shows -/

private theorem isWord_single {character : Char} (word : isWordChar character = true) :
    IsWord [character] :=
  ⟨List.cons_ne_nil character [], by simpa using word⟩

private theorem length_le_of_shows {result : Text → Text} {left right other rest : Text}
    (one : ShowsBetween result left right) (two : ShowsBetween result other rest) :
    left.length ≤ other.length := by
  by_contra longer
  rw [Nat.not_le] at longer
  -- the text in front of the later place would have to hold two different words
  have stands : ∀ character, isWordChar character = true →
      left[other.length]? = some character := by
    intro character word
    have single := isWord_single word
    have same : left ++ ([character] ++ right) = other ++ ([character] ++ rest) :=
      (one _ single).symm.trans (two _ single)
    have inside : (left ++ ([character] ++ right))[other.length]? = left[other.length]? :=
      List.getElem?_append_left longer
    rw [← inside, same, List.getElem?_append_right (Nat.le_refl _), Nat.sub_self]
    rfl
  have impossible := (stands 'a' (by decide)).symm.trans (stands 'b' (by decide))
  exact absurd (Option.some.inj impossible) (by decide)

theorem ShowsBetween.unique {result : Text → Text} {left right other rest : Text}
    (one : ShowsBetween result left right) (two : ShowsBetween result other rest) :
    left = other ∧ right = rest := by
  have length := Nat.le_antisymm (length_le_of_shows one two) (length_le_of_shows two one)
  have single : IsWord ['a'] := isWord_single (by decide)
  obtain ⟨same, later⟩ := List.append_inj ((one _ single).symm.trans (two _ single)) length
  exact ⟨same, List.append_cancel_left later⟩

theorem Hides.not_showsBetween {result : Text → Text} (hidden : Hides result) (left right : Text) :
    ¬ ShowsBetween result left right := by
  intro shown
  obtain ⟨out, same⟩ := hidden
  have one : IsWord ['a'] := isWord_single (by decide)
  have two : IsWord ['b'] := isWord_single (by decide)
  have equal : left ++ (['a'] ++ right) = left ++ (['b'] ++ right) := by
    rw [← shown _ one, ← shown _ two, same _ one, same _ two]
  cases List.append_cancel_left equal

end Text

namespace Mask

open Text (IsWord ShowsBetween Hides wordAtEnd)

/-! ### Masked lines, newline by newline -/

/-- The number of a masked line is the number of newlines before it and one. -/
theorem maskLines_eq_pieces (mask : Mask) (text : Text) :
    mask.maskLines text =
      ((Text.pieces '\n' (mask.withoutComments text)).map mask.maskLine).zipIdx.filterMap
        fun entry => if entry.1.isEmpty then none else some ⟨lineNumber entry.2, entry.1⟩ := by
  obtain ⟨front, last, parts, listed⟩ := Text.exists_lines_eq (mask.withoutComments text)
  have returned : mask.maskLine ∘ Text.dropReturn = mask.maskLine := by
    funext line
    rw [Function.comp_apply]
    unfold maskLine
    rw [lexemes_dropReturn]
  unfold maskLines
  rw [parts, listed]
  have split : ∀ lines : List Text,
      (lines.zipIdx.filterMap fun entry =>
        let masked := mask.maskLine entry.1
        if masked.isEmpty then none else some (NumberedLine.mk (lineNumber entry.2) masked)) =
      (lines.map mask.maskLine).zipIdx.filterMap
        fun entry => if entry.1.isEmpty then none else some ⟨lineNumber entry.2, entry.1⟩ := by
    intro lines
    rw [List.zipIdx_map, List.filterMap_map]
    rfl
  rw [split, List.map_append, List.map_map, returned]
  cases last with
  | nil =>
      have empty : mask.maskLine [] = [] := rfl
      simp [empty, List.zipIdx_append]
  | cons character rest => simp

theorem maskLines_congr {mask : Mask} {left right : Text}
    (same : (Text.pieces '\n' (mask.withoutComments left)).map mask.maskLine =
      (Text.pieces '\n' (mask.withoutComments right)).map mask.maskLine) :
    mask.maskLines left = mask.maskLines right := by
  rw [maskLines_eq_pieces, maskLines_eq_pieces, same]

/-! ### Names in a line -/

/-- A run of word characters that starts with a letter or an underscore. -/
structure IsIdentifier (run : Text) : Prop extends Text.IsWord run where
  named : isName run = true

theorem isName_append {front : Text} (named : isName front = true) (rest : Text) :
    isName (front ++ rest) = true := by
  cases front with
  | nil => cases named
  | cons first later => exact named

/-- A word becomes part of one lexeme, behind the word before it; the other lexemes do not depend on it.
-/
theorem exists_lexemes_eq (before after : Text) :
    ∃ front tail later, ∀ run, IsWord run →
      lexemes (before ++ (run ++ after)) = front ++ (wordAtEnd before ++ (run ++ tail)) :: later := by
  obtain ⟨start, split, wordBefore, gap⟩ := Text.exists_wordAtEnd before
  obtain ⟨tail, rest, rfl, wordBehind, ends⟩ := @Text.exists_stretch _ Text.kindOf _ .word after
  refine ⟨lexemes start, tail, lexemes rest, fun run solid => ?_⟩
  have alike : ∀ character ∈ wordAtEnd before ++ (run ++ tail), Text.kindOf character = .word := by
    intro character member
    simp only [List.mem_append] at member
    rcases member with inBefore | inRun | inTail
    · exact Text.kindOf_eq_word_iff.mpr (wordBefore character inBefore)
    · exact Text.kindOf_eq_word_iff.mpr (solid.word character inRun)
    · exact wordBehind character inTail
  have inhabited : wordAtEnd before ++ (run ++ tail) ≠ [] := by simp [solid.inhabited]
  have regrouped : before ++ (run ++ (tail ++ rest)) =
      start ++ ((wordAtEnd before ++ (run ++ tail)) ++ rest) := by
    conv => lhs; rw [split]
    simp only [List.append_assoc]
  rw [regrouped, lexemes_eq_runs, Text.runs_append, Text.runs_append_alike inhabited (by simp) alike ends]
  · rfl
  · intro last ending first opening same
    rw [List.head?_append_of_ne_nil _ inhabited] at opening
    rw [alike first (List.mem_of_head? opening), Text.kindOf_eq_word_iff, gap last ending] at same
    cases same

/-- An identifier is masked as any other one, unless it stands right behind a word that is no name. -/
theorem maskLine_identifier (mask : Mask) {before : Text}
    (loose : wordAtEnd before = [] ∨ isName (wordAtEnd before) = true) {old new : Text}
    (one : IsIdentifier old) (other : IsIdentifier new) (after : Text) :
    mask.maskLine (before ++ (old ++ after)) = mask.maskLine (before ++ (new ++ after)) := by
  obtain ⟨front, tail, later, around⟩ := exists_lexemes_eq before after
  have masked : ∀ run, IsIdentifier run →
      mask.maskLexeme (wordAtEnd before ++ (run ++ tail)) = mask.placeholder := by
    intro run identifier
    apply if_pos
    rcases loose with none | named
    · rw [none]
      exact isName_append identifier.named tail
    · exact isName_append named (run ++ tail)
  unfold maskLine
  rw [around old one.toIsWord, around new other.toIsWord, List.map_append, List.map_append,
    List.map_cons, List.map_cons, masked old one, masked new other]

/-! ### Places -/

/-- The text that a mask makes of a text with a word at a place. -/
def leftWith (mask : Mask) (before after run : Text) : Text :=
  mask.withoutComments (before ++ (run ++ after))

/-- Where a word at this place is left, it does not come to stand right behind a word that is no name. -/
def Loose (mask : Mask) (before after : Text) : Prop :=
  ∀ left right, ShowsBetween (mask.leftWith before after) left right →
    wordAtEnd left = [] ∨ isName (wordAtEnd left) = true

theorem withoutBlocks_place (mask : Mask) (before after : Text) :
    Text.Settles fun run => mask.withoutBlocks (before ++ (run ++ after)) := by
  unfold withoutBlocks
  cases mask.dropsBlocks with
  | true => exact Comment.dropBlocks_place before after
  | false => exact Or.inr ⟨before, after, fun _ _ => rfl⟩

theorem newline_not_mem_of_isWord {run : Text} (solid : IsWord run) : '\n' ∉ run := by
  intro member
  exact absurd (solid.word '\n' member) (by decide)

section Lines

variable {mask : Mask} (solid : ∀ marker ∈ mask.markers, Settings.isSolid marker = true)
    (wordless : ∀ marker ∈ mask.markers, ∀ character ∈ marker, Text.isWordChar character = false)

include solid wordless

omit wordless in
theorem pieces_leftWith {before after left right : Text}
    (shown : ShowsBetween (fun run => mask.withoutBlocks (before ++ (run ++ after))) left right)
    {front later : List Text} {line behind : Text} (lefts : Text.pieces '\n' left = front ++ [line])
    (rights : Text.pieces '\n' right = behind :: later) {run : Text} (word : IsWord run) :
    Text.pieces '\n' (mask.leftWith before after run) =
      front.map (Comment.unmarked mask.markers) ++
        Comment.unmarked mask.markers (line ++ (run ++ behind)) ::
          later.map (Comment.unmarked mask.markers) := by
  have whole : mask.withoutBlocks (before ++ (run ++ after)) = left ++ (run ++ right) :=
    shown run word
  have single : Text.pieces '\n' run = [] ++ [run] :=
    Text.pieces_of_not_mem (newline_not_mem_of_isWord word)
  have parts : Text.pieces '\n' (mask.withoutBlocks (before ++ (run ++ after))) =
      front ++ (line ++ (run ++ behind)) :: later := by
    rw [whole]
    exact Text.pieces_append lefts (Text.pieces_append single rights)
  unfold leftWith
  rw [withoutComments_eq, Comment.pieces_dropLineComments (plain_of_solid solid), parts]
  simp

/-- A word that shows without the blocks stands in one line. That line is cut before it or behind it, and
the other lines do not depend on it. -/
theorem leftWith_cases {before after left right : Text}
    (shown : ShowsBetween (fun run => mask.withoutBlocks (before ++ (run ++ after))) left right) :
    Hides (mask.leftWith before after) ∨
      ∃ front line behind later, wordAtEnd line = wordAtEnd left ∧
        ∀ run, IsWord run → Text.pieces '\n' (mask.leftWith before after run) =
          front ++ (line ++ (run ++ behind)) :: later := by
  have inhabited : ∀ marker ∈ mask.markers, marker ≠ [] :=
    fun marker listed => (plain_of_solid solid marker listed).1
  obtain ⟨front, line, lefts⟩ := (List.eq_nil_or_concat (Text.pieces '\n' left)).resolve_left
    (Text.pieces_ne_nil '\n' left)
  rw [List.concat_eq_append] at lefts
  obtain ⟨behind, later, rights⟩ := List.exists_cons_of_ne_nil (Text.pieces_ne_nil '\n' right)
  have lines : ∀ run, IsWord run → Text.pieces '\n' (mask.leftWith before after run) =
      front.map (Comment.unmarked mask.markers) ++
        Comment.unmarked mask.markers (line ++ (run ++ behind)) ::
          later.map (Comment.unmarked mask.markers) :=
    fun _ word => pieces_leftWith solid shown lefts rights word
  have ending : wordAtEnd line = wordAtEnd left := by
    have whole := Text.intercalate_pieces '\n' left
    rw [lefts] at whole
    rw [← whole, Text.wordAtEnd_intercalate (by decide)]
  rcases Comment.unmarked_place wordless inhabited line behind with cut | kept
  · refine Or.inl ⟨['\n'].intercalate (front.map (Comment.unmarked mask.markers) ++
      Comment.unmarked mask.markers line :: later.map (Comment.unmarked mask.markers)), ?_⟩
    intro run word
    rw [← Text.intercalate_pieces '\n' (mask.leftWith before after run), lines run word, cut run word]
  · refine Or.inr ⟨front.map (Comment.unmarked mask.markers), line,
      Comment.unmarked mask.markers behind, later.map (Comment.unmarked mask.markers), ending, ?_⟩
    intro run word
    rw [lines run word, kept run word]

omit solid wordless in
theorem showsBetween_of_pieces {before after line behind : Text} {front later : List Text}
    (lines : ∀ run, IsWord run → Text.pieces '\n' (mask.leftWith before after run) =
      front ++ (line ++ (run ++ behind)) :: later) :
    ShowsBetween (mask.leftWith before after) (['\n'].intercalate (front ++ [line]))
      (['\n'].intercalate (behind :: later)) := by
  intro run word
  have joined : ['\n'].intercalate ([] ++ (run ++ behind) :: later) =
      ['\n'].intercalate ([] ++ [run]) ++ ['\n'].intercalate (behind :: later) :=
    Text.intercalate_join [] later run behind
  rw [← Text.intercalate_pieces '\n' (mask.leftWith before after run), lines run word,
    Text.intercalate_join]
  congr 1
  simpa using joined

/-- Where blocks stay, a word at a maximal place never comes to stand behind another one. -/
theorem loose_of_keeps_blocks (keeps : mask.dropsBlocks = false) {before : Text}
    (maximal : ∀ last ∈ before.getLast?, Text.isWordChar last = false) (after : Text) :
    mask.Loose before after := by
  have shown : ShowsBetween (fun run => mask.withoutBlocks (before ++ (run ++ after))) before after := by
    intro run _
    simp [withoutBlocks, keeps]
  intro left right found
  rcases leftWith_cases solid wordless shown with hidden | ⟨front, line, behind, later, ending, lines⟩
  · exact absurd found (hidden.not_showsBetween left right)
  · obtain ⟨same, _⟩ := found.unique (showsBetween_of_pieces lines)
    left
    rw [same, Text.wordAtEnd_intercalate (by decide), ending]
    exact Text.wordAtEnd_eq_nil maximal

/-- An identifier at a loose place may give way to another one. -/
theorem maskLines_identifier {before after : Text} (loose : mask.Loose before after) {old new : Text}
    (one : IsIdentifier old) (other : IsIdentifier new) :
    mask.maskLines (before ++ (old ++ after)) = mask.maskLines (before ++ (new ++ after)) := by
  apply maskLines_congr
  change (Text.pieces '\n' (mask.leftWith before after old)).map mask.maskLine =
    (Text.pieces '\n' (mask.leftWith before after new)).map mask.maskLine
  rcases withoutBlocks_place mask before after with ⟨out, hidden⟩ | ⟨left, right, shown⟩
  · have gone : ∀ run, IsWord run → mask.withoutBlocks (before ++ (run ++ after)) = out := hidden
    unfold leftWith
    rw [withoutComments_eq, withoutComments_eq, gone old one.toIsWord, gone new other.toIsWord]
  · rcases leftWith_cases solid wordless shown with
      ⟨out, hidden⟩ | ⟨front, line, behind, later, _, lines⟩
    · rw [hidden old one.toIsWord, hidden new other.toIsWord]
    · have ending := loose _ _ (showsBetween_of_pieces lines)
      rw [Text.wordAtEnd_intercalate (by decide)] at ending
      rw [lines old one.toIsWord, lines new other.toIsWord, List.map_append, List.map_append,
        List.map_cons, List.map_cons, maskLine_identifier mask ending one other behind]

end Lines

/-! ### Renaming -/

/-- One text comes from another by replacing a maximal run of word characters that is an identifier by
another identifier, at a place where that is allowed. -/
inductive Renamed (allowed : Text → Text → Prop) : Text → Text → Prop
  | replace {before after old new : Text}
      (first : ∀ last ∈ before.getLast?, Text.isWordChar last = false)
      (last : ∀ next ∈ after.head?, Text.isWordChar next = false)
      (one : IsIdentifier old) (other : IsIdentifier new) (free : allowed before after) :
      Renamed allowed (before ++ (old ++ after)) (before ++ (new ++ after))

/-- Identifiers may give way to others, one after the other, without a change to the masked lines, as long
as none comes to stand right behind a word that is no name. Where blocks stay, none ever does. -/
theorem maskLines_renamed [Platform] (settings : CheckedSettings)
    (wordless : ∀ marker ∈ settings.commentMarkers, ∀ character ∈ marker,
      Text.isWordChar character = false) :
    (∀ text renamed, Relation.ReflTransGen (Renamed settings.mask.Loose) text renamed →
        settings.mask.maskLines renamed = settings.mask.maskLines text ∧
          settings.mask.tokenStream renamed = settings.mask.tokenStream text) ∧
      (settings.stripBlocks = false → ∀ text renamed,
        Relation.ReflTransGen (Renamed fun _ _ => True) text renamed →
          settings.mask.maskLines renamed = settings.mask.maskLines text ∧
            settings.mask.tokenStream renamed = settings.mask.tokenStream text) := by
  have solid := settings.solid_markers
  replace wordless : ∀ marker ∈ settings.mask.markers, ∀ character ∈ marker,
      Text.isWordChar character = false := by
    rw [settings.mask_eq]
    exact wordless
  have lines : ∀ text renamed, Relation.ReflTransGen (Renamed settings.mask.Loose) text renamed →
      settings.mask.maskLines renamed = settings.mask.maskLines text ∧
        settings.mask.tokenStream renamed = settings.mask.tokenStream text := by
    intro text renamed steps
    have masked : settings.mask.maskLines renamed = settings.mask.maskLines text := by
      induction steps with
      | refl => rfl
      | tail _ step ih =>
          cases step with
          | replace _ _ one other free =>
              rw [← maskLines_identifier solid wordless free one other, ih]
    refine ⟨masked, ?_⟩
    unfold tokenStream
    rw [masked]
  refine ⟨lines, fun keeps text renamed steps => lines text renamed ?_⟩
  refine Relation.ReflTransGen.mono (fun earlier later step => ?_) _ _ steps
  cases step with
  | replace first last one other _ =>
      refine Renamed.replace first last one other (loose_of_keeps_blocks solid wordless ?_ first _)
      rw [settings.mask_eq]
      exact keeps

private theorem isIdentifier_of_all {run : Text} (named : isName run = true)
    (word : run.all Text.isWordChar = true) : IsIdentifier run where
  inhabited := by
    rintro rfl
    cases named
  word := List.all_eq_true.mp word
  named := named

private theorem wordless_of_all {markers : List Text}
    (plain : (markers.all fun marker => marker.all fun character => !Text.isWordChar character) = true) :
    ∀ marker ∈ markers, ∀ character ∈ marker, Text.isWordChar character = false := by
  simpa using plain

-- The first name of the line stands between two blocks, and what is left of the second is a number.
private theorem renamed_between :
    Renamed Mask.standard.Loose "1 /* a */ a/**/2 // a".toList "1 /* a */ é_/**/2 // a".toList := by
  have loose : Mask.standard.Loose "1 /* a */ ".toList "/**/2 // a".toList := by
    intro left right shown
    have single := shown ['_'] (Text.isWord_single (by decide))
    have left_eq : "1  ".toList ++ '_' :: "2 ".toList = left ++ '_' :: right := by
      rw [List.singleton_append] at single
      rw [← single]
      decide +kernel
    have parts := (List.append_cons_inj_of_notMem (by decide) (by decide)).mp left_eq
    rw [← parts.1]
    decide
  exact @Renamed.replace _ "1 /* a */ ".toList "/**/2 // a".toList ['a'] "é_".toList
    (by rintro _ ⟨⟩; decide) (by rintro _ ⟨⟩; decide) (isIdentifier_of_all (by decide) (by decide))
    (isIdentifier_of_all (by decide +kernel) (by decide +kernel)) loose

-- With the blocks left in, the name behind the second number is apart from it.
theorem maskLines_renamed_between :
    Mask.standard.maskLines "1 /* a */ é_/**/2 // a".toList =
        Mask.standard.maskLines "1 /* a */ a/**/2 // a".toList ∧
      Mask.maskLines ⟨Mask.standard.markers, false, Mask.standard.placeholder⟩ "1/**/b".toList =
        Mask.maskLines ⟨Mask.standard.markers, false, Mask.standard.placeholder⟩ "1/**/a".toList := by
  have wordless : ∀ marker ∈ Mask.standard.markers, ∀ character ∈ marker,
      Text.isWordChar character = false :=
    wordless_of_all (by decide)
  constructor
  · exact ((maskLines_renamed ⟨Settings.standard, Mask.standard, rfl, rfl⟩ wordless).1 _ _
      (Relation.ReflTransGen.single renamed_between)).1
  · have step : Renamed (fun _ _ => True) "1/**/a".toList "1/**/b".toList :=
      @Renamed.replace _ "1/**/".toList [] ['a'] ['b'] (by rintro _ ⟨⟩; decide) (by rintro _ ⟨⟩)
        (isIdentifier_of_all (by decide) (by decide)) (isIdentifier_of_all (by decide) (by decide))
        trivial
    exact ((maskLines_renamed ⟨{ Settings.standard with stripBlocks := false },
      ⟨Mask.standard.markers, false, Mask.standard.placeholder⟩, rfl, rfl⟩ wordless).2 rfl _ _
      (Relation.ReflTransGen.single step)).1

/-- Where a block goes between a number and a name the two become one lexeme, which is kept as it is. So
two texts that differ in the name only are masked differently. -/
theorem maskLines_joined :
    Settings.standard.check = .ok Settings.standard ∧
      Mask.ofSettings Settings.standard = .ok Mask.standard ∧
      (∀ marker ∈ Settings.standard.commentMarkers, ∀ character ∈ marker,
        Text.isWordChar character = false) ∧
      Renamed (fun _ _ => True) "1/**/a".toList "1/**/b".toList ∧
      Mask.standard.maskLines "1/**/a".toList = [⟨1, "1a".toList⟩] ∧
      Mask.standard.maskLines "1/**/b".toList = [⟨1, "1b".toList⟩] := by
  refine ⟨rfl, rfl, wordless_of_all (by decide), ?_, by decide +kernel, by decide +kernel⟩
  exact @Renamed.replace _ "1/**/".toList [] ['a'] ['b'] (by rintro _ ⟨⟩; decide) (by rintro _ ⟨⟩)
    (isIdentifier_of_all (by decide) (by decide)) (isIdentifier_of_all (by decide) (by decide))
    trivial

end Mask

end RepeatScan
