import Mathlib.Algebra.Group.Nat.Defs
import RepeatScan.Proofs.Retrieval
import RepeatScan.Proofs.Yaml.Plain

set_option autoImplicit false

/-! Quoted scalars. Between double quotes each character is read from what it is written as, by itself or
behind a backslash; between single quotes the indentation behind a line break is passed over. Main
statements: a text between quotes is read as the text. -/

namespace RepeatScan.Yaml

/-! ### Characters behind a backslash -/

theorem escapedChar?_of_escapeLetter? {character letter : Char}
    (written : escapeLetter? character = some letter) :
    escapedChar? letter = some character ∧ codePointWidth? letter = none ∧
      isBreak letter = false ∧ isPrintable letter = true := by
  have listed := mem_of_lookup written
  have meant := Char.ofNat_toNat character
  simp only [List.mem_cons, Prod.mk.injEq, List.not_mem_nil, or_false] at listed
  rcases listed with ⟨code, rfl⟩ | ⟨code, rfl⟩ | ⟨code, rfl⟩ | ⟨code, rfl⟩ | ⟨code, rfl⟩ |
      ⟨code, rfl⟩ | ⟨code, rfl⟩ | ⟨code, rfl⟩ | ⟨code, rfl⟩ | ⟨code, rfl⟩ | ⟨code, rfl⟩ |
      ⟨code, rfl⟩ | ⟨code, rfl⟩ | ⟨code, rfl⟩ <;>
    (rw [code] at meant; subst meant; decide)

/-- The digits of a number at some places, in capital letters. -/
def capitalDigits (places number : Nat) : Text :=
  (Text.hexDigits places number).map Char.toUpper

theorem capitalDigits_succ (places number : Nat) :
    capitalDigits (places + 1) number =
      capitalDigits places (number / 16) ++ [(Text.hexDigit (number % 16)).toUpper] := by
  simp [capitalDigits, Text.hexDigits]

theorem hexValue?_toUpper {value : Nat} (small : value < 16) :
    Text.hexValue? (Text.hexDigit value).toUpper = some value ∧
      isPrintable (Text.hexDigit value).toUpper = true := by
  have all : ∀ digit < 16, Text.hexValue? (Text.hexDigit digit).toUpper = some digit ∧
      isPrintable (Text.hexDigit digit).toUpper = true := by decide
  exact all value small

theorem quotedFrom_digit {left value digit : Nat} (small : digit < 16) (more : ¬ left ≤ 1)
    (place : Place) (content rest : Text) :
    quotedFrom true place content .empty (.digits left value)
        ((Text.hexDigit digit).toUpper :: rest) =
      quotedFrom true (place.forward 1) content .empty (.digits (left - 1) (value * 16 + digit))
        rest := by
  rw [quotedFrom, (hexValue?_toUpper small).1]
  simp [more]

/-- Digits that are not the last of a code point are kept in mind. -/
theorem quotedFrom_capitalDigits (places number value : Nat) {left : Nat} (more : 1 ≤ left)
    (place : Place) (content rest : Text) :
    quotedFrom true place content .empty (.digits (places + left) value)
        (capitalDigits places number ++ rest) =
      quotedFrom true (place.forward places) content .empty
        (.digits left (value * 16 ^ places + number % 16 ^ places)) rest := by
  induction places generalizing number left rest with
  | zero => simp [capitalDigits, Text.hexDigits, Nat.mod_one]
  | succ places ih =>
      have sum : (value * 16 ^ places + number / 16 % 16 ^ places) * 16 + number % 16 =
          value * 16 ^ (places + 1) + number % 16 ^ (places + 1) := by
        rw [Nat.pow_succ, Nat.mul_comm (16 ^ places) 16, Nat.mod_mul, Nat.add_mul,
          Nat.mul_left_comm, Nat.mul_comm value, Nat.mul_comm (16 ^ places) value]
        omega
      rw [capitalDigits_succ, List.append_assoc, List.singleton_append, Nat.add_assoc,
        Nat.add_comm 1 left, ih (number / 16) (Nat.succ_le_succ (Nat.zero_le left)),
        quotedFrom_digit (Nat.mod_lt number (by decide)) (by omega), sum, Place.forward_forward]
      rfl

theorem quotedFrom_codePoint {places : Nat} {character : Char}
    (fits : character.toNat < 16 ^ (places + 1)) (place : Place) (content rest : Text) :
    quotedFrom true place content .empty (.digits (places + 1) 0)
        (capitalDigits (places + 1) character.toNat ++ rest) =
      quotedFrom true (place.forward (places + 1)) (character :: content) .empty .content rest := by
  have small : character.toNat % 16 < 16 := Nat.mod_lt character.toNat (by decide)
  have high : character.toNat / 16 % 16 ^ places = character.toNat / 16 :=
    Nat.mod_eq_of_lt (Nat.div_lt_of_lt_mul (by rwa [Nat.pow_succ, Nat.mul_comm] at fits))
  have whole : character.toNat / 16 * 16 + character.toNat % 16 = character.toNat :=
    Nat.div_add_mod' character.toNat 16
  have point : codePoint? character.toNat = some character := by
    have valid : character.toNat.isValidChar := character.valid
    simp [codePoint?, valid]
  rw [capitalDigits_succ, List.append_assoc, List.singleton_append,
    quotedFrom_capitalDigits places _ 0 (Nat.le_refl 1), quotedFrom, (hexValue?_toUpper small).1]
  simp [high, whole, point]

/-- The forms of an escaped character: its letter, or its code point behind the sign for a width. -/
theorem escape_cases (character : Char) :
    (∃ letter, escapeLetter? character = some letter ∧ escape character = ['\\', letter]) ∨
      ∃ sign places, codePointWidth? sign = some (places + 1) ∧ isBreak sign = false ∧
        isPrintable sign = true ∧ character.toNat < 16 ^ (places + 1) ∧
        escape character = '\\' :: sign :: capitalDigits (places + 1) character.toNat := by
  unfold escape
  cases written : escapeLetter? character with
  | some letter => exact .inl ⟨letter, rfl, rfl⟩
  | none =>
      refine .inr ?_
      by_cases short : character.toNat ≤ 0xFF
      · exact ⟨'x', 1, rfl, rfl, by decide, by omega, by simp [short, capitalDigits]⟩
      by_cases middle : character.toNat ≤ 0xFFFF
      · exact ⟨'u', 3, rfl, rfl, by decide, by omega, by simp [short, middle, capitalDigits]⟩
      have valid : character.toNat.isValidChar := character.valid
      have fits : character.toNat < 16 ^ 8 := by
        simp only [Nat.isValidChar] at valid
        omega
      exact ⟨'U', 7, rfl, rfl, by decide, fits, by simp [short, middle, capitalDigits]⟩

theorem quotedFrom_backslash {place : Place} (inLine : 0 < place.column) (content : Text)
    (gap : Gap)
    (rest : Text) :
    quotedFrom true place content gap .content ('\\' :: rest) =
      quotedFrom true (place.forward 1) (gap.fill content) .empty .escape rest := by
  have noGap : isGap '\\' = false := by decide
  rw [quotedFrom, if_neg (by simp [noGap]), if_neg (by omega)]
  rfl

theorem quotedFrom_escape {place : Place} (inLine : 0 < place.column) (content : Text) (gap : Gap)
    (character : Char) (rest : Text) :
    ∃ count, quotedFrom true place content gap .content (escape character ++ rest) =
      quotedFrom true (place.forward count) (character :: gap.fill content) .empty .content
        rest := by
  rcases escape_cases character with
    ⟨letter, written, form⟩ | ⟨sign, places, width, goes, -, fits, form⟩
  · obtain ⟨meant, noWidth, goes, -⟩ := escapedChar?_of_escapeLetter? written
    refine ⟨2, ?_⟩
    rw [form, List.cons_append, quotedFrom_backslash inLine, List.cons_append, quotedFrom,
      if_neg (by decide), if_neg (by simp [goes]), noWidth]
    simp [meant]
  · refine ⟨2 + (places + 1), ?_⟩
    rw [form, List.cons_append, quotedFrom_backslash inLine, List.cons_append, quotedFrom,
      if_neg (by decide), if_neg (by simp [goes]), width]
    simp [quotedFrom_codePoint fits]

/-! ### Double quotes -/

/-- What a character is written as between double quotes. -/
def quotedForm (character : Char) : Text :=
  if !isPrintable character || isBreak character || character == '"' || character == '\\' then
    escape character
  else [character]

theorem doubleQuoted_eq (content : Text) :
    doubleQuoted content = '"' :: (content.flatMap quotedForm ++ ['"']) := rfl

/-- A character is read from its form. The gap before it has been passed inside a line. -/
theorem quotedFrom_form {place : Place} (inLine : 0 < place.column) (content : Text) {gap : Gap}
    (whole : gap.broken = false) (character : Char) (rest : Text) :
    ∃ count content' gap', gap'.broken = false ∧
      gap'.fill content' = character :: gap.fill content ∧
      quotedFrom true place content gap .content (quotedForm character ++ rest) =
        quotedFrom true (place.forward count) content' gap' .content rest := by
  unfold quotedForm
  split
  · obtain ⟨count, read⟩ := quotedFrom_escape inLine content gap character rest
    exact ⟨count, _, .empty, rfl, rfl, read⟩
  · rename_i shown
    simp only [Bool.or_eq_true, not_or, Bool.not_eq_true, Bool.not_eq_false', beq_iff_eq] at shown
    obtain ⟨⟨⟨printable, goes⟩, noQuote⟩, noBackslash⟩ := shown
    have advance := Place.advance_of_not_isBreak goes place
    by_cases space : character = ' '
    · subst space
      refine ⟨1, content, gap.add ' ', by simp [Gap.add_space, whole], ?_, ?_⟩
      · simp [Gap.fill_of_not_broken, Gap.add_space, whole]
      · rw [List.singleton_append, quotedFrom, if_pos isGap_space, advance]
    · have noGap : isGap character = false := by
        rw [isGap_of_isPrintable printable, goes, beq_eq_false_iff_ne.mpr space]
        rfl
      refine ⟨1, character :: gap.fill content, .empty, rfl, rfl, ?_⟩
      rw [List.singleton_append, quotedFrom, if_neg (by simp [noGap]), if_neg (by omega)]
      simp [noQuote, noBackslash]

theorem quotedFrom_doubleQuoted (text : Text) (place : Place) (inLine : 0 < place.column)
    (content : Text) {gap : Gap} (whole : gap.broken = false) (suffix : Text) :
    ∃ count, quotedFrom true place content gap .content
        (text.flatMap quotedForm ++ '"' :: suffix) =
      some ⟨(gap.fill content).reverse ++ text, place.forward count, suffix⟩ := by
  induction text generalizing place content gap with
  | nil =>
      have noGap : isGap '"' = false := by decide
      refine ⟨1, ?_⟩
      rw [List.flatMap_nil, List.nil_append, quotedFrom, if_neg (by simp [noGap]),
        if_neg (by omega)]
      simp
  | cons character later ih =>
      obtain ⟨count, content', gap', stays, filled, step⟩ := quotedFrom_form inLine content whole
        character (later.flatMap quotedForm ++ '"' :: suffix)
      obtain ⟨more, read⟩ := ih (place.forward count)
        (Nat.lt_add_right count inLine) content' stays
      refine ⟨count + more, ?_⟩
      rw [List.flatMap_cons, List.append_assoc, step, read, filled, Place.forward_forward]
      simp

/-! ### Single quotes -/

/-- A text between single quotes is read up to a place: content and gap are what is read of it, last
character first. -/
structure Quoting (place : Place) (content : Text) (gap : Gap) (read : Text) : Prop where
  filled : gap.fill content = read
  inLine : gap.broken = false → 0 < place.column
  spaced : gap.broken = false → gap.blanks ≠ [] → read.head? = some ' '
  edge : gap.broken = true → ∃ last, read.head? = some last ∧ isBreak last = true
  kept : gap.broken = true → ∃ first, gap.first = some first ∧ first ≠ '\n'

namespace Quoting

variable {place : Place} {content read : Text} {gap : Gap}

theorem add_space (quoting : Quoting place content gap read) (whole : gap.broken = false) :
    Quoting (place.forward 1) content (gap.add ' ') (' ' :: read) := by
  have filled := quoting.filled
  rw [Gap.fill_of_not_broken whole] at filled
  rw [Gap.add_space whole]
  refine ⟨by simp [Gap.fill_of_not_broken, whole, filled], fun _ => Nat.succ_pos _,
    fun _ _ => rfl, fun broken => ?_, fun broken => ?_⟩ <;>
  · rw [whole] at broken
    cases broken

theorem add_break (quoting : Quoting place content gap read) {character : Char}
    (breaks : isBreak character = true) (noNewline : character ≠ '\n')
    (behind : read.head? ≠ some ' ') :
    Quoting (place.advance character) content (gap.add character) (character :: read) := by
  have filled := quoting.filled
  cases broken : gap.broken with
  | false =>
      have empty : gap.blanks = [] := by
        by_contra passed
        exact behind (quoting.spaced broken passed)
      rw [Gap.fill_of_not_broken broken, empty, List.nil_append] at filled
      have added : gap.add character = ⟨[], true, some character, []⟩ := by
        simp [Gap.add, breaks, broken]
      rw [added]
      exact ⟨by simp [Gap.fill, noNewline, filled], by simp, by simp,
        fun _ => ⟨character, rfl, breaks⟩, fun _ => ⟨character, rfl, noNewline⟩⟩
  | true =>
      obtain ⟨first, kept, other⟩ := quoting.kept broken
      have added : gap.add character = { gap with later := character :: gap.later } := by
        simp [Gap.add, breaks, broken]
      rw [added]
      refine ⟨?_, by simp [broken], by simp [broken], fun _ => ⟨character, rfl, breaks⟩,
        fun _ => ⟨first, kept, other⟩⟩
      simpa [Gap.fill, broken, kept, other] using filled

theorem add_word (quoting : Quoting place content gap read) (character : Char) {behind : Place}
    (inLine : 0 < behind.column) :
    Quoting behind (character :: gap.fill content) .empty (character :: read) :=
  ⟨by simp [quoting.filled], fun _ => inLine, fun _ empty => absurd rfl empty, nofun, nofun⟩

end Quoting

/-- The indentation behind a line break does not count. -/
theorem quotedFrom_margin {gap : Gap} (broken : gap.broken = true) (indent : Nat) (place : Place)
    (content rest : Text) :
    quotedFrom false place content gap .content (margin indent ++ rest) =
      quotedFrom false (place.forward indent) content gap .content rest := by
  induction indent generalizing place with
  | zero => rfl
  | succ indent ih =>
      have idle : gap.add ' ' = gap := by simp [Gap.add, isBreak_space, broken]
      have step : quotedFrom false place content gap .content (' ' :: (margin indent ++ rest)) =
          quotedFrom false (place.forward 1) content gap .content (margin indent ++ rest) := by
        rw [quotedFrom, if_pos isGap_space, idle, Place.advance_of_not_isBreak isBreak_space]
      refine step.trans ?_
      rw [ih, Place.forward_forward, Nat.add_comm 1 indent]

theorem indented_doubled (indent : Nat) (atBreak : Bool) (character : Char) (later : Text) :
    indented indent atBreak (doubled (character :: later)) =
      if isBreak character then character :: indented indent true (doubled later)
      else (if atBreak then margin indent else []) ++
        ((if character = '\'' then ['\'', '\''] else [character]) ++
          indented indent false (doubled later)) := by
  by_cases quote : character = '\''
  · subst quote
    have goes : isBreak '\'' = false := by decide
    simp [doubled, indented, goes]
  · simp [doubled, indented, quote]

section

variable {indent : Nat} (positive : 0 < indent) {place : Place} {content read : Text} {gap : Gap}
  (quoting : Quoting place content gap read)

include positive quoting

/-- Before a character that breaks no line the reader comes to be inside a line. -/
theorem Quoting.exists_inLine :
    ∃ arrived : Place, arrived.line = place.line ∧ 0 < arrived.column ∧ ∀ rest,
      quotedFrom false place content gap .content
          ((if gap.broken then margin indent else []) ++ rest) =
        quotedFrom false arrived content gap .content rest := by
  cases broken : gap.broken with
  | false => exact ⟨place, rfl, quoting.inLine broken, fun _ => rfl⟩
  | true =>
      exact ⟨place.forward indent, rfl, Nat.lt_add_left _ positive,
        quotedFrom_margin broken indent _ _⟩

/-- A character of a text is read with what stands before it and for it. -/
theorem Quoting.exists_step {character : Char} (printable : isPrintable character = true)
    (noNewline : character ≠ '\n')
    (before : isBreak character = true → read.head? ≠ some ' ')
    (behind : ∀ last ∈ read.head?, isBreak last = true → character ≠ ' ') (later : Text) :
    ∃ place' content' gap', Quoting place' content' gap' (character :: read) ∧
      gap'.broken = isBreak character ∧ place.line ≤ place'.line ∧
      ∀ rest, quotedFrom false place content gap .content
          (indented indent gap.broken (doubled (character :: later)) ++ rest) =
        quotedFrom false place' content' gap' .content
          (indented indent (isBreak character) (doubled later) ++ rest) := by
  rw [indented_doubled]
  by_cases breaks : isBreak character = true
  · have isGap : isGap character = true := by simp [isGap, breaks]
    refine ⟨place.advance character, content, gap.add character,
      quoting.add_break breaks noNewline (before breaks), ?_, Place.line_le_advance _ _,
      fun rest => ?_⟩
    · cases broken : gap.broken <;> simp [Gap.add, breaks, broken]
    · rw [if_pos breaks, List.cons_append, quotedFrom, if_pos isGap, breaks]
  have goes := Bool.eq_false_iff.mpr breaks
  by_cases space : character = ' '
  · subst space
    have whole : gap.broken = false := by
      rw [Bool.eq_false_iff]
      intro broken
      obtain ⟨last, same, edge⟩ := quoting.edge broken
      exact behind last same edge rfl
    refine ⟨place.forward 1, content, gap.add ' ', quoting.add_space whole,
      by simp [Gap.add_space, whole, goes], Nat.le_refl _, fun rest => ?_⟩
    rw [whole, if_neg (by simp [goes]), if_neg (by decide), goes]
    simp [quotedFrom, isGap_space, Place.advance_of_not_isBreak goes]
  have noGap : isGap character = false := by
    rw [isGap_of_isPrintable printable, goes, beq_eq_false_iff_ne.mpr space]
    rfl
  obtain ⟨arrived, sameLine, inLine, reached⟩ := quoting.exists_inLine positive
  have started := Nat.ne_of_gt inLine
  simp only [goes, Bool.false_eq_true, if_false, List.append_assoc, reached]
  by_cases quote : character = '\''
  · subst quote
    refine ⟨arrived.forward 2, _, .empty, quoting.add_word _ (Nat.lt_add_right 2 inLine), rfl,
      by simp [sameLine], fun rest => ?_⟩
    simp [quotedFrom, noGap, started]
  · refine ⟨arrived.forward 1, _, .empty, quoting.add_word _ (Nat.lt_add_right 1 inLine), rfl,
      by simp [sameLine], fun rest => ?_⟩
    simp [quotedFrom, noGap, started, quote]

theorem Quoting.exists_text {text : Text}
    (printable : ∀ character ∈ text, isPrintable character = true) (noNewline : '\n' ∉ text)
    (before : (read.reverse ++ text).IsChain fun left right => left = ' ' → isBreak right = false)
    (behind : (read.reverse ++ text).IsChain fun left right => isBreak left = true → right ≠ ' ') :
    ∃ place' content' gap', Quoting place' content' gap' (text.reverse ++ read) ∧
      gap'.broken = endsAtBreak gap.broken text ∧ place.line ≤ place'.line ∧
      ∀ rest, quotedFrom false place content gap .content
          (indented indent gap.broken (doubled text) ++ rest) =
        quotedFrom false place' content' gap' .content rest := by
  induction text generalizing place content gap read with
  | nil => exact ⟨place, content, gap, quoting, rfl, Nat.le_refl _, fun _ => rfl⟩
  | cons character later ih =>
      have first := (List.isChain_append.mp before).2.2
      have second := (List.isChain_append.mp behind).2.2
      rw [List.getLast?_reverse] at first second
      have notNewline : character ≠ '\n' := by
        rintro rfl
        exact noNewline List.mem_cons_self
      obtain ⟨place₁, content₁, gap₁, quoting₁, broken₁, line₁, step⟩ :=
        quoting.exists_step positive (printable character List.mem_cons_self) notNewline
          (fun breaks space => by
            have goes := first _ space _ rfl rfl
            rw [breaks] at goes
            cases goes)
          (fun last same edge => second last same _ rfl edge) later
      have joined : read.reverse ++ character :: later = (character :: read).reverse ++ later := by
        simp
      rw [joined] at before behind
      obtain ⟨place₂, content₂, gap₂, quoting₂, broken₂, line₂, rest⟩ := ih quoting₁
        (fun other listed => printable other (List.mem_cons_of_mem _ listed))
        (fun listed => noNewline (List.mem_cons_of_mem _ listed)) before behind
      refine ⟨place₂, content₂, gap₂, by simpa using quoting₂, ?_, line₁.trans line₂,
        fun suffix => ?_⟩
      · rw [broken₂, broken₁]
        rfl
      · rw [step, ← broken₁, rest]

end

theorem endsAtBreak_doubled (atBreak : Bool) (text : Text) :
    endsAtBreak atBreak (doubled text) = endsAtBreak atBreak text := by
  induction text generalizing atBreak with
  | nil => rfl
  | cons character later ih =>
      unfold doubled endsAtBreak at *
      by_cases quote : character = '\''
      · subst quote
        simpa using ih (isBreak '\'')
      · simpa [quote] using ih (isBreak character)

/-- A text between single quotes is read as the text. -/
theorem quotedFrom_singleQuoted {text : Text} (quotable : Quotable text) {indent : Nat}
    (positive : 0 < indent) {place : Place} (inLine : 0 < place.column) {suffix : Text}
    (ends : suffix.head? ≠ some '\'') :
    ∃ place', place.line ≤ place'.line ∧
      quotedFrom false place [] .empty .content
          ((singleQuoted indent text).tail ++ suffix) = some ⟨text, place', suffix⟩ := by
  have opened : Quoting place [] .empty [] :=
    ⟨rfl, fun _ => inLine, fun _ empty => absurd rfl empty, nofun, nofun⟩
  obtain ⟨behind, content, gap, quoting, broken, line, read⟩ := opened.exists_text positive
    quotable.printable quotable.noNewline quotable.before quotable.behind
  have whole : Gap.empty.broken = false := rfl
  rw [whole] at broken read
  obtain ⟨arrived, sameLine, inside, reached⟩ := quoting.exists_inLine positive
  have started := Nat.ne_of_gt inside
  have noGap : isGap '\'' = false := by decide
  have filled := quoting.filled
  refine ⟨arrived.forward 1, by simpa [sameLine] using line, ?_⟩
  rw [singleQuoted_eq, endsAtBreak_doubled, ← broken, List.tail_cons, List.append_assoc, read,
    List.append_assoc, reached]
  simp [quotedFrom, noGap, started, ends, filled]

end RepeatScan.Yaml
