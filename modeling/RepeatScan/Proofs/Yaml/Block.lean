import RepeatScan.Proofs.Yaml.Plain

set_option autoImplicit false

/-! Block scalars. The marks of a block say how its lines are indented and what becomes of the line
breaks at its end. Main statement: a text that is written as a block is read as the text, up to the
first word of a line that is less indented. -/

namespace RepeatScan.Yaml

/-! ### The marks of a block -/

/-- What the marks of a text say of the line breaks at its end. -/
def chompingOf (text : Text) : Chomping :=
  match text.reverse with
  | [] => .strip
  | last :: before =>
      if !isBreak last then .strip else if before.head?.all isBreak then .keep else .clip

def chompingMark : Chomping → Text
  | .strip => ['-']
  | .clip => []
  | .keep => ['+']

theorem blockMarks_eq (text : Text) :
    blockMarks text = (if text.head?.any isGap then ['2'] else []) ++
      chompingMark (chompingOf text) := by
  have digits : Text.decimal indentStep = ['2'] := by decide
  unfold blockMarks chompingOf
  rw [digits]
  cases text.reverse with
  | nil => rfl
  | cons last before =>
      by_cases breaks : isBreak last = true
      · by_cases empty : before.head?.all isBreak = true <;> simp [breaks, empty, chompingMark]
      · simp [breaks, chompingMark]

theorem ofText_blockMarks (text rest : Text) :
    BlockHeader.ofText (blockMarks text ++ '\n' :: rest) =
      some (⟨chompingOf text, if text.head?.any isGap then some indentStep else none⟩,
        '\n' :: rest) := by
  rw [blockMarks_eq]
  cases text.head?.any isGap <;> cases chompingOf text <;> rfl

theorem marginOf_margin (column widest indent : Nat) (rest : Text) :
    marginOf column widest (margin indent ++ rest) = marginOf (column + indent) widest rest := by
  induction indent generalizing column with
  | zero => rfl
  | succ indent ih =>
      have step : marginOf column widest (' ' :: (margin indent ++ rest)) =
          marginOf (column + 1) widest (margin indent ++ rest) := rfl
      refine step.trans ?_
      rw [ih, Nat.add_assoc, Nat.add_comm 1 indent]

/-- The indentation of a block that begins with a word is that of its first line. -/
theorem marginOf_indented {text : Text} (inhabited : text ≠ [])
    (word : text.head?.any isGap = false) (indent : Nat) (rest : Text) :
    marginOf 0 0 (indented indent true text ++ rest) = some indent := by
  obtain ⟨first, later, rfl⟩ := List.exists_cons_of_ne_nil inhabited
  have noGap : isGap first = false := word
  have goes : isBreak first = false := (Bool.or_eq_false_iff.mp noGap).2
  have noBlank : isBlank first = false := (Bool.or_eq_false_iff.mp noGap).1
  simp only [isBlank, Bool.or_eq_false_iff, beq_eq_false_iff_ne] at noBlank
  rw [indented, if_neg (by simp [goes]), if_pos rfl, List.append_assoc, marginOf_margin]
  simp [marginOf, goes, noBlank]

/-! ### The lines of a block -/

namespace Block

/-- A block is read up to a place: its content and the line breaks behind it are what is read of it,
last character first. -/
structure Holds (block : Block) (place : Place) (read : Text) : Prop where
  whole : block.later ++ block.first.toList ++ block.content = read
  within : block.inLine = true → block.first = none ∧ block.later = []
  before : block.inLine = false → place.column = 0

end Block

theorem blockFrom_margin {column indent : Nat} {block : Block} (atLine : block.inLine = false)
    (place : Place) (inside : place.column + indent ≤ column) (rest : Text) :
    blockFrom true column place block (margin indent ++ rest) =
      blockFrom true column (place.forward indent) block rest := by
  induction indent generalizing place with
  | zero => rfl
  | succ indent ih =>
      have step : blockFrom true column place block (' ' :: (margin indent ++ rest)) =
          blockFrom true column (place.forward 1) block (margin indent ++ rest) := by
        rw [blockFrom, if_neg (by simp [isBreak_space]), if_neg (by simp [atLine]),
          if_neg (by omega),
          if_pos rfl]
      refine step.trans ?_
      rw [ih (place.forward 1) (by simp; omega), Place.forward_forward, Nat.add_comm 1 indent]

/-- A block ends at a word that is less indented. -/
theorem blockFrom_word {column indent : Nat} {block : Block} (atLine : block.inLine = false)
    {place : Place} (atStart : place.column = 0) (outside : indent < column) {word : Text}
    (begins : BeginsWord word) :
    blockFrom true column place block (margin indent ++ word) =
      some (block, place.forward indent, word) := by
  rw [blockFrom_margin atLine place (by omega)]
  cases word with
  | nil => rfl
  | cons first later =>
      obtain ⟨noGap, -, -⟩ := begins first rfl
      simp only [isGap, isBlank, Bool.or_eq_false_iff, beq_eq_false_iff_ne] at noGap
      obtain ⟨⟨noSpace, noTab⟩, goes⟩ := noGap
      have before : ¬ column ≤ (place.forward indent).column := by simp; omega
      rw [blockFrom, if_neg (by simp [goes]), if_neg (by simp [atLine]), if_neg before,
        if_neg noSpace, if_neg noTab]

section

variable (column : Nat) {block : Block} {place : Place} {read : Text}

theorem Block.Holds.exists_step (holds : block.Holds place read) (character : Char) (later : Text) :
    ∃ block' place', Block.Holds block' place' (character :: read) ∧
      block'.inLine = !isBreak character ∧
      ∀ rest, blockFrom true column place block
          (indented column (!block.inLine) (character :: later) ++ rest) =
        blockFrom true column place' block'
          (indented column (isBreak character) later ++ rest) := by
  obtain ⟨whole, within, before⟩ := holds
  rw [indented]
  by_cases breaks : isBreak character = true
  · have atStart : (place.advance character).column = 0 := by
      rw [Place.advance_of_isBreak breaks]
    cases inLine : block.inLine with
    | true =>
        obtain ⟨noFirst, noLater⟩ := within inLine
        rw [noFirst, noLater] at whole
        refine ⟨{ block with first := some character, inLine := false },
          place.advance character, ⟨?_, by simp, fun _ => atStart⟩, by simp [breaks],
          fun rest => ?_⟩
        · simpa [noLater] using whole
        · simp [blockFrom, breaks, inLine]
    | false =>
        refine ⟨{ block with later := character :: block.later }, place.advance character,
          ⟨by simpa using whole, by simp [inLine], fun _ => atStart⟩, by simp [breaks, inLine],
          fun rest => ?_⟩
        simp [blockFrom, breaks, inLine]
  have goes := Bool.eq_false_iff.mpr breaks
  cases inLine : block.inLine with
  | true =>
      obtain ⟨noFirst, noLater⟩ := within inLine
      rw [noFirst, noLater] at whole
      refine ⟨{ block with content := character :: block.content }, place.forward 1,
        ⟨?_, fun _ => ⟨noFirst, noLater⟩, by simp [inLine]⟩, by simp [goes, inLine], fun rest => ?_⟩
      · simpa [noFirst, noLater] using whole
      · simp [blockFrom, goes, inLine]
  | false =>
      have atStart := before inLine
      refine ⟨block.beginLine true character, (place.forward column).forward 1,
        ⟨?_, fun _ => ⟨rfl, rfl⟩, by simp [Block.beginLine]⟩, by simp [goes, Block.beginLine],
        fun rest => ?_⟩
      · simpa [Block.beginLine] using whole
      · simp only [goes, Bool.false_eq_true, if_false, Bool.not_false, if_true, List.append_assoc]
        rw [blockFrom_margin inLine place (by omega)]
        simp [blockFrom, goes, inLine]

theorem Block.Holds.exists_text (holds : block.Holds place read) (text : Text) :
    ∃ block' place', Block.Holds block' place' (text.reverse ++ read) ∧
      block'.inLine = !endsAtBreak (!block.inLine) text ∧
      ∀ rest, blockFrom true column place block (indented column (!block.inLine) text ++ rest) =
        blockFrom true column place' block' rest := by
  induction text generalizing block place read with
  | nil => exact ⟨block, place, holds, by simp [endsAtBreak], fun _ => rfl⟩
  | cons character later ih =>
      obtain ⟨block₁, place₁, holds₁, inLine₁, step⟩ := holds.exists_step column character later
      obtain ⟨block₂, place₂, holds₂, inLine₂, rest⟩ := ih holds₁
      refine ⟨block₂, place₂, by simpa using holds₂, ?_, fun suffix => ?_⟩
      · rw [inLine₂, inLine₁, Bool.not_not]
        rfl
      · rw [step, ← rest, inLine₁, Bool.not_not]

end

theorem Block.start_holds {place : Place} (atStart : place.column = 0) :
    Block.start.Holds place [] :=
  ⟨rfl, nofun, fun _ => atStart⟩

/-- The line break behind a text that ends inside a line is kept apart from it. -/
theorem blockFrom_ended {column indent : Nat} (outside : indent < column) (place : Place)
    (atStart : place.column = 0) {text : Text} (inside : endsAtBreak true text = false)
    {character : Char} (breaks : isBreak character = true) {word : Text}
    (begins : BeginsWord word) :
    ∃ block, ∃ place' : Place, place'.column = 0 ∧ block.content = text.reverse ∧
      block.first = some character ∧
      blockFrom true column place .start
          (indented column true text ++ character :: (margin indent ++ word)) =
        some (block, place'.forward indent, word) := by
  obtain ⟨block, behind, holds, inLine, read⟩ := (Block.start_holds atStart).exists_text column text
  have inLine : block.inLine = true := by
    rw [inLine]
    simpa [Block.start] using inside
  obtain ⟨noFirst, noLater⟩ := holds.within inLine
  have whole := holds.whole
  rw [noFirst, noLater] at whole
  have atLine : (behind.advance character).column = 0 := by rw [Place.advance_of_isBreak breaks]
  have ended : blockFrom true column behind block (character :: (margin indent ++ word)) =
      some ({ block with first := some character, inLine := false },
        (behind.advance character).forward indent, word) := by
    rw [blockFrom, if_pos breaks, inLine, if_pos rfl, blockFrom_word rfl atLine outside begins]
  exact ⟨_, _, atLine, by simpa using whole, rfl, (read _).trans ended⟩

theorem endsAtBreak_eq {text : Text} (inhabited : text ≠ []) (atBreak : Bool) :
    endsAtBreak atBreak text = text.getLast?.any isBreak := by
  obtain ⟨before, last, rfl⟩ := List.eq_nil_or_concat' text |>.resolve_left inhabited
  simp [endsAtBreak]

/-- The lines of a block with its chomping give back the text. -/
theorem blockFrom_text {column indent : Nat} (outside : indent < column) (place : Place)
    (atStart : place.column = 0) {text : Text} (inhabited : text ≠ []) {word : Text}
    (begins : BeginsWord word) :
    ∃ block, ∃ place' : Place, place'.column = 0 ∧ block.finish (chompingOf text) = text ∧
      blockFrom true column place .start
          (indented column true text ++
            ((if endsAtBreak true text then [] else ['\n']) ++ (margin indent ++ word))) =
        some (block, place'.forward indent, word) := by
  obtain ⟨before, last, rfl⟩ := List.eq_nil_or_concat' text |>.resolve_left inhabited
  have atEnd : endsAtBreak true (before ++ [last]) = isBreak last := by simp [endsAtBreak]
  rw [atEnd]
  by_cases breaks : isBreak last = true
  · rw [if_pos breaks, List.nil_append]
    by_cases empty : before.getLast?.all isBreak = true
    · have keeps : chompingOf (before ++ [last]) = .keep := by simp [chompingOf, breaks, empty]
      obtain ⟨block, behind, holds, inLine, read⟩ :=
        (Block.start_holds atStart).exists_text column (before ++ [last])
      have atLine : block.inLine = false := by
        rw [inLine]
        simpa [Block.start, breaks] using atEnd
      have whole := holds.whole
      refine ⟨block, behind, holds.before atLine, ?_,
        (read _).trans (blockFrom_word atLine (holds.before atLine) outside begins)⟩
      rw [keeps, Block.finish, whole]
      simp
    · have clips : chompingOf (before ++ [last]) = .clip := by simp [chompingOf, breaks, empty]
      have goesOn : endsAtBreak true before = false := by
        have filled : before ≠ [] := by
          rintro rfl
          exact empty rfl
        obtain ⟨earlier, second, rfl⟩ := List.eq_nil_or_concat' before |>.resolve_left filled
        simpa [endsAtBreak] using empty
      obtain ⟨block, behind, atLine, content, first, read⟩ :=
        blockFrom_ended outside place atStart goesOn breaks begins
      refine ⟨block, behind, atLine, by simp [clips, Block.finish, content, first], ?_⟩
      rw [indented_append, indented, if_pos breaks]
      simpa [indented] using read
  · have strips : chompingOf (before ++ [last]) = .strip := by simp [chompingOf, breaks]
    obtain ⟨block, behind, atLine, content, -, read⟩ :=
      blockFrom_ended outside place atStart (atEnd.trans (Bool.eq_false_iff.mpr breaks))
        isBreak_newline begins
    refine ⟨block, behind, atLine, by simp [strips, Block.finish, content], ?_⟩
    simpa [breaks] using read

/-- A text that is written as a block is read as the text. -/
theorem block?_literalBlock {text : Text} (inhabited : text ≠ []) {level indent : Nat}
    (outside : indent ≤ level) (place : Place) {word : Text} (begins : BeginsWord word) :
    ∃ place' : Place, place'.column = 0 ∧
      block? true (some level) place
          (blockMarks text ++ '\n' :: (indented (level + indentStep) true text ++
            ((if endsAtBreak true text then [] else ['\n']) ++ (margin indent ++ word)))) =
        some ⟨text, place'.forward indent, word⟩ := by
  generalize ended : ((if endsAtBreak true text then [] else ['\n']) ++ (margin indent ++ word)) =
    rest
  have line : lineEnd? ('\n' :: (indented (level + indentStep) true text ++ rest)) =
      some ('\n' :: (indented (level + indentStep) true text ++ rest)) := by
    simp [lineEnd?, isBlank, isBreak]
  have lower : indent < level + indentStep := by
    simp only [indentStep]
    omega
  unfold block?
  rw [ofText_blockMarks]
  simp only [Option.bind_eq_bind, Option.bind_some, line, Place.pastBreak]
  generalize place.forward _ = headed
  obtain ⟨block, behind, atLine, finished, read⟩ := blockFrom_text lower (headed.advance '\n')
    (by simp [Place.advance_of_isBreak isBreak_newline]) inhabited begins
  rw [ended] at read
  refine ⟨behind, atLine, ?_⟩
  cases word : text.head?.any isGap with
  | true => simp [read, finished]
  | false =>
      have further : max indentStep 1 = indentStep := by decide
      simp [marginOf_indented inhabited word, further, read, finished]

end RepeatScan.Yaml
