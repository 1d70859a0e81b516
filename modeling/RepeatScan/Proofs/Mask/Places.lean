import RepeatScan.Proofs.Mask.Markers

set_option autoImplicit false

/-! Places of a text. Comments begin and end with characters that are part of no word, so what becomes of
a word that stands at a place does not depend on the word: it goes with a comment, or it is left at one
place of what is left. -/

namespace RepeatScan

namespace Text

/-- A run of characters that make up words. -/
structure IsWord (run : Text) : Prop where
  inhabited : run ≠ []
  word : ∀ character ∈ run, isWordChar character = true

/-- A word put behind a text brings no sign with it that is part of no word. -/
theorem IsWord.head?_append_ne {run : Text} (solid : IsWord run) {sign : Char}
    (other : isWordChar sign = false) {front : Text} (plain : front.head? ≠ some sign)
    (rest : Text) : (front ++ (run ++ rest)).head? ≠ some sign := by
  cases front with
  | cons first later => exact plain
  | nil =>
      cases run with
      | nil => exact absurd rfl solid.inhabited
      | cons first later =>
          intro opening
          obtain rfl := Option.some.inj opening
          exact absurd (solid.word first List.mem_cons_self) (by simp [other])

/-- What is made of a text with a word in it is the same whatever the word is. -/
def Hides (result : Text → Text) : Prop :=
  ∃ out, ∀ run, IsWord run → result run = out

/-- What is made of a text with a word in it shows the word between two texts. -/
def ShowsBetween (result : Text → Text) (left right : Text) : Prop :=
  ∀ run, IsWord run → result run = left ++ (run ++ right)

def Settles (result : Text → Text) : Prop :=
  Hides result ∨ ∃ left right, ShowsBetween result left right

theorem Settles.congr {result other : Text → Text} (settles : Settles other)
    (same : ∀ run, IsWord run → result run = other run) : Settles result := by
  rcases settles with ⟨out, hidden⟩ | ⟨left, right, shown⟩
  · exact Or.inl ⟨out, fun run solid => (same run solid).trans (hidden run solid)⟩
  · exact Or.inr ⟨left, right, fun run solid => (same run solid).trans (shown run solid)⟩

end Text

namespace Comment

open Text (IsWord Settles)

/-! ### Blocks -/

theorem dropBlocksFrom_keep {character : Char} {rest : Text}
    (plain : character = '/' → rest.head? ≠ some '*') (kept : Text) :
    dropBlocksFrom kept none (character :: rest) = dropBlocksFrom (character :: kept) none rest := by
  rw [dropBlocksFrom]
  intro later slash star
  rw [star] at plain
  exact plain slash rfl

theorem dropBlocksFrom_inside {character : Char} {rest : Text}
    (plain : character = '*' → rest.head? ≠ some '/') (single : character ≠ '\n') (kept : Text)
    (block : Text × Text) :
    dropBlocksFrom kept (some block) (character :: rest) = dropBlocksFrom kept (some block) rest := by
  rw [dropBlocksFrom]
  · intro later star slash
    rw [slash] at plain
    exact plain star rfl
  · exact single

section Word

variable {run : Text} (word : ∀ character ∈ run, Text.isWordChar character = true)

include word

private theorem dropBlocksFrom_word_kept (kept rest : Text) :
    dropBlocksFrom kept none (run ++ rest) = dropBlocksFrom (run.reverse ++ kept) none rest := by
  induction run generalizing kept with
  | nil => rfl
  | cons character later ih =>
      have slash : character ≠ '/' := by
        rintro rfl
        exact absurd (word '/' List.mem_cons_self) (by decide)
      rw [List.cons_append, dropBlocksFrom_keep (fun same => absurd same slash),
        ih fun next member => word next (List.mem_cons_of_mem character member)]
      simp

private theorem dropBlocksFrom_word_inside (kept rest : Text) (block : Text × Text) :
    dropBlocksFrom kept (some block) (run ++ rest) = dropBlocksFrom kept (some block) rest := by
  induction run with
  | nil => rfl
  | cons character later ih =>
      have star : character ≠ '*' := by
        rintro rfl
        exact absurd (word '*' List.mem_cons_self) (by decide)
      have newline : character ≠ '\n' := by
        rintro rfl
        exact absurd (word '\n' List.mem_cons_self) (by decide)
      rw [List.cons_append, dropBlocksFrom_inside (fun same => absurd same star) newline]
      exact ih fun next member => word next (List.mem_cons_of_mem character member)

end Word

-- A text behind a place is read in the same way whatever was kept; in a block it only matters whether the
-- block ends.
private theorem dropBlocksFrom_rest (kept : Text) (block : Option (Text × Text)) (rest : Text) :
    match block with
    | none => ∃ right, ∀ kept, dropBlocksFrom kept none rest = kept.reverse ++ right
    | some _ =>
        (∃ right, ∀ kept block, dropBlocksFrom kept (some block) rest = kept.reverse ++ right) ∨
          ∀ kept block, dropBlocksFrom kept (some block) rest = block.1.reverse ++ block.2 := by
  fun_induction dropBlocksFrom kept block rest with
  | case1 kept rest ih =>
      rcases ih with ⟨right, closed⟩ | open_
      · exact ⟨right, fun kept => closed kept _⟩
      · exact ⟨'/' :: '*' :: rest, fun kept => open_ kept _⟩
  | case2 kept character rest plain ih =>
      obtain ⟨right, kept_eq⟩ := ih
      refine ⟨character :: right, fun kept => ?_⟩
      rw [dropBlocksFrom, kept_eq]
      · simp
      · exact plain
  | case3 kept => exact ⟨[], fun kept => by simp [dropBlocksFrom]⟩
  | case4 kept block rest ih =>
      obtain ⟨right, kept_eq⟩ := ih
      exact Or.inl ⟨right, fun kept block => kept_eq kept⟩
  | case5 kept block rest ih =>
      rcases ih with ⟨right, closed⟩ | open_
      · refine Or.inl ⟨'\n' :: right, fun kept block => ?_⟩
        rw [dropBlocksFrom, closed]
        simp
      · refine Or.inr fun kept block => ?_
        rw [dropBlocksFrom, open_]
  | case6 kept block character rest plain single ih =>
      have step : ∀ kept block, dropBlocksFrom kept (some block) (character :: rest) =
          dropBlocksFrom kept (some block) rest := by
        intro kept block
        rw [dropBlocksFrom]
        · exact plain
        · exact single
      simpa only [step] using ih
  | case7 kept before opening => exact Or.inr fun kept block => by rw [dropBlocksFrom]

-- The word is part of the opening that a block keeps in mind until it is known to end.
private theorem dropBlocksFrom_place (kept : Text) (block : Option (Text × Text))
    (before after : Text) :
    Settles fun run => dropBlocksFrom kept
      (block.map fun known => (known.1, known.2 ++ (run ++ after))) (before ++ (run ++ after)) := by
  fun_induction dropBlocksFrom kept block before with
  | case1 kept rest ih => exact ih
  | case2 kept character rest plain ih =>
      refine ih.congr fun run solid => ?_
      refine dropBlocksFrom_keep (fun slash => ?_) kept
      refine solid.head?_append_ne (by decide) (fun star => ?_) after
      obtain ⟨later, same⟩ := List.head?_eq_some_iff.mp star
      exact plain later slash same
  | case3 kept =>
      obtain ⟨right, kept_eq⟩ := dropBlocksFrom_rest [] none after
      refine Or.inr ⟨kept.reverse, right, fun run solid => ?_⟩
      change dropBlocksFrom kept none (run ++ after) = _
      rw [dropBlocksFrom_word_kept solid.word, kept_eq]
      simp
  | case4 kept block rest ih => exact ih
  | case5 kept block rest ih =>
      refine ih.congr fun run _ => ?_
      change dropBlocksFrom kept (some _) ('\n' :: (rest ++ (run ++ after))) = _
      rw [dropBlocksFrom]
      rfl
  | case6 kept block character rest plain single ih =>
      refine ih.congr fun run solid => ?_
      refine dropBlocksFrom_inside (fun star => ?_) single kept _
      refine solid.head?_append_ne (by decide) (fun slash => ?_) after
      obtain ⟨later, same⟩ := List.head?_eq_some_iff.mp slash
      exact plain later star same
  | case7 kept front opening =>
      have inside : ∀ run, IsWord run → dropBlocksFrom kept
          (some (front, opening ++ (run ++ after))) (run ++ after) =
            dropBlocksFrom kept (some (front, opening ++ (run ++ after))) after :=
        fun run solid => dropBlocksFrom_word_inside solid.word kept after _
      rcases dropBlocksFrom_rest [] (some (front, opening)) after with ⟨right, closed⟩ | open_
      · exact Or.inl ⟨kept.reverse ++ right, fun run solid =>
          (inside run solid).trans (closed kept _)⟩
      · refine Or.inr ⟨front.reverse ++ opening, after, fun run solid => ?_⟩
        refine (inside run solid).trans ((open_ kept _).trans ?_)
        simp

theorem dropBlocks_place (before after : Text) :
    Settles fun run => dropBlocks (before ++ (run ++ after)) :=
  dropBlocksFrom_place [] none before after

/-! ### Line comments -/

section Wordless

variable {markers : List Text}
    (wordless : ∀ marker ∈ markers, ∀ character ∈ marker, Text.isWordChar character = false)

include wordless

theorem unmarked_word {run : Text} (inhabited : ∀ marker ∈ markers, marker ≠ [])
    (word : ∀ character ∈ run, Text.isWordChar character = true) (rest : Text) :
    unmarked markers (run ++ rest) = run ++ unmarked markers rest := by
  induction run with
  | nil => rfl
  | cons character later ih =>
      have clear : marked markers (character :: (later ++ rest)) = false := by
        rw [Bool.eq_false_iff, Ne, marked_iff]
        rintro ⟨marker, listed, leading⟩
        cases marker with
        | nil => exact inhabited [] listed rfl
        | cons first others =>
            obtain ⟨rfl, _⟩ := List.cons_prefix_cons.mp leading
            have known := wordless _ listed first List.mem_cons_self
            rw [word first List.mem_cons_self] at known
            cases known
      rw [List.cons_append, unmarked, if_neg (by simp [clear]),
        ih fun next member => word next (List.mem_cons_of_mem character member)]
      rfl

theorem marked_word {run : Text} (solid : IsWord run) (text rest : Text) :
    marked markers (text ++ (run ++ rest)) = marked markers text := by
  apply marked_append
  intro marker listed next opening held
  have front : ([] : Text).head? ≠ some next := by simp
  exact solid.head?_append_ne (wordless marker listed next held) front rest opening

/-- A line with a word in it is cut before the word or behind it. -/
theorem unmarked_place (inhabited : ∀ marker ∈ markers, marker ≠ []) (before after : Text) :
    (∀ run, IsWord run →
        unmarked markers (before ++ (run ++ after)) = unmarked markers before) ∨
      ∀ run, IsWord run →
        unmarked markers (before ++ (run ++ after)) = before ++ (run ++ unmarked markers after) := by
  induction before with
  | nil => exact Or.inr fun run solid => unmarked_word wordless inhabited solid.word after
  | cons character rest ih =>
      have same : ∀ run, IsWord run → marked markers (character :: (rest ++ (run ++ after))) =
          marked markers (character :: rest) :=
        fun _ solid => marked_word wordless solid (character :: rest) after
      cases found : marked markers (character :: rest) with
      | true =>
          refine Or.inl fun run solid => ?_
          rw [List.cons_append, unmarked, if_pos ((same run solid).trans found), unmarked,
            if_pos found]
      | false =>
          have clear : ∀ run, IsWord run →
              ¬ marked markers (character :: (rest ++ (run ++ after))) = true := by
            intro run solid
            rw [same run solid, found]
            exact Bool.false_ne_true
          have front : ¬ marked markers (character :: rest) = true := by
            rw [found]
            exact Bool.false_ne_true
          rcases ih with hidden | shown
          · refine Or.inl fun run solid => ?_
            rw [List.cons_append, unmarked, if_neg (clear run solid), hidden run solid, unmarked,
              if_neg front]
          · refine Or.inr fun run solid => ?_
            rw [List.cons_append, unmarked, if_neg (clear run solid), shown run solid]
            rfl

end Wordless

end Comment

end RepeatScan
