import Mathlib.Data.List.Chain
import RepeatScan.Proofs.Yaml.Characters

set_option autoImplicit false

/-! The styles of texts: what is known of a text that is written in each of them, and the forms that it
is written in. Main statement: the style of a text keeps what it promises. -/

namespace RepeatScan.Yaml

/-! ### Texts without quotes -/

/-- Neighbours in a plain scalar: no colon stands before a gap, and no number sign behind one. -/
def PlainPair (left right : Char) : Prop :=
  (left = ':' → isGap right = false) ∧ (isGap left = true → right ≠ '#')

/-- What holds of each end of a plain scalar. -/
structure PlainEnd (content : Text) : Prop where
  printable : ∀ character ∈ content, isPrintable character = true
  unbroken : ∀ character ∈ content, isBreak character = false
  last : content.getLast? ≠ some ' ' ∧ content.getLast? ≠ some ':'
  neighbours : content.IsChain PlainPair

structure Plain (content : Text) : Prop extends PlainEnd content where
  inhabited : content ≠ []
  head : content.head? ≠ some ' '
  unmarked : startsLikeMark content = false
  begins : startsIndicator content = false

theorem PlainEnd.tail {character : Char} {later : Text} (ends : PlainEnd (character :: later)) :
    PlainEnd later := by
  refine ⟨fun other listed => ends.printable other (List.mem_cons_of_mem character listed),
    fun other listed => ends.unbroken other (List.mem_cons_of_mem character listed), ?_,
    ends.neighbours.tail⟩
  cases later with
  | nil => exact ⟨nofun, nofun⟩
  | cons second later => simpa using ends.last

theorem printable_of_needsEscapes {content : Text} (fits : needsEscapes content = false) :
    ∀ character ∈ content, isPrintable character = true := by
  simp only [needsEscapes, Bool.or_eq_false_iff] at fits
  simpa using fits.1

theorem plain_of_fitsPlain {content : Text} (inhabited : content ≠ [])
    (fits : fitsPlain content = true) : Plain content := by
  simp only [fitsPlain, fitsSingleQuotes, holdsIndicator, Bool.and_eq_true, Bool.not_eq_true',
    Bool.or_eq_false_iff, bne_iff_ne, ne_eq, beq_eq_false_iff_ne] at fits
  obtain ⟨⟨⟨⟨⟨⟨⟨escapes, -⟩, unbroken⟩, head⟩, last⟩, unmarked⟩, begins⟩, pairs, colon⟩ := fits
  refine ⟨⟨printable_of_needsEscapes escapes, by simpa using unbroken, ⟨last, colon⟩,
    (isChain_of_adjacent pairs).imp fun left right apart => ?_⟩, inhabited, head, unmarked, begins⟩
  simp only [Bool.or_eq_false_iff, Bool.and_eq_false_iff, beq_eq_false_iff_ne] at apart
  constructor
  · rintro rfl
    simpa using apart.1
  · intro gap
    simpa [gap] using apart.2

/-- The characters of names and numbers. -/
def isWordSign (character : Char) : Bool :=
  character.isAlphanum || character == '_'

theorem contains_of_isWordSign {character : Char} (sign : isWordSign character = true)
    {others : List Char} (apart : others.all (!isWordSign ·) = true) :
    others.contains character = false := by
  rw [Bool.eq_false_iff]
  intro listed
  have refused := List.all_eq_true.mp apart character (List.contains_iff_mem.mp listed)
  rw [sign] at refused
  cases refused

theorem ne_of_isWordSign {character : Char} (sign : isWordSign character = true) (other : Char)
    (apart : isWordSign other = false) : character ≠ other := by
  rintro rfl
  rw [sign] at apart
  cases apart

theorem toNat_of_isWordSign {character : Char} (sign : isWordSign character = true) :
    character.toNat = 95 ∨ 48 ≤ character.toNat ∧ character.toNat ≤ 57 ∨
      65 ≤ character.toNat ∧ character.toNat ≤ 90 ∨
      97 ≤ character.toNat ∧ character.toNat ≤ 122 := by
  unfold isWordSign Char.isAlphanum Char.isAlpha Char.isUpper Char.isLower Char.isDigit at sign
  simp only [Bool.or_eq_true, Bool.and_eq_true, decide_eq_true_eq, ge_iff_le,
    UInt32.le_iff_toNat_le, beq_iff_eq] at sign
  change ((65 ≤ character.toNat ∧ character.toNat ≤ 90 ∨
    97 ≤ character.toNat ∧ character.toNat ≤ 122) ∨
    48 ≤ character.toNat ∧ character.toNat ≤ 57) ∨ character = '_' at sign
  rcases sign with range | rfl
  · omega
  · decide

theorem isPrintable_of_isWordSign {character : Char} (sign : isWordSign character = true) :
    isPrintable character = true := by
  have codes := toNat_of_isWordSign sign
  simp [isPrintable, Text.CodeRange.covers]
  omega

theorem isGap_of_isWordSign {character : Char} (sign : isWordSign character = true) :
    isGap character = false := by
  have codes := toNat_of_isWordSign sign
  have noSpace := ne_of_isWordSign sign ' ' (by decide)
  have noTab := ne_of_isWordSign sign '\t' (by decide)
  have noNewline := ne_of_isWordSign sign '\n' (by decide)
  have small : character.toNat ≠ 0x2028 ∧ character.toNat ≠ 0x2029 := by omega
  simp [isGap, isBlank, isBreak, noSpace, noTab, noNewline, small]

/-- A word of letters, digits and underscores can stand without quotes. -/
theorem plain_of_word {content : Text} (inhabited : content ≠ [])
    (word : ∀ character ∈ content, isWordSign character = true) : Plain content := by
  have apart (other : Char) (refused : isWordSign other = false) : other ∉ content :=
    fun listed => ne_of_isWordSign (word other listed) other refused rfl
  have noGap : ∀ character ∈ content, isGap character = false :=
    fun character listed => isGap_of_isWordSign (word character listed)
  refine ⟨⟨fun character listed => isPrintable_of_isWordSign (word character listed),
    fun character listed => (Bool.or_eq_false_iff.mp (noGap character listed)).2,
    ⟨fun last => apart ' ' (by decide) (List.mem_of_getLast? last),
      fun last => apart ':' (by decide) (List.mem_of_getLast? last)⟩, ?_⟩, inhabited,
    fun first => apart ' ' (by decide) (List.mem_of_head? first), ?_, ?_⟩
  · refine (List.pairwise_of_forall_mem_list fun left inLeft right inRight => ?_).isChain
    exact ⟨fun _ => noGap right inRight,
      fun gap => absurd gap (Bool.eq_false_iff.mp (noGap left inLeft))⟩
  · obtain ⟨first, later, rfl⟩ := List.exists_cons_of_ne_nil inhabited
    have noDash := ne_of_isWordSign (word first List.mem_cons_self) '-' (by decide)
    have noDot := ne_of_isWordSign (word first List.mem_cons_self) '.' (by decide)
    rw [startsLikeMark, List.isPrefixOf_cons_cons, List.isPrefixOf_cons_cons,
      beq_eq_false_iff_ne.mpr noDash.symm, beq_eq_false_iff_ne.mpr noDot.symm]
    rfl
  · obtain ⟨first, later, rfl⟩ := List.exists_cons_of_ne_nil inhabited
    have sign := word first List.mem_cons_self
    have refused {other : Char} (apart : isWordSign other = false) : (first == other) = false :=
      beq_eq_false_iff_ne.mpr (ne_of_isWordSign sign other apart)
    rw [startsIndicator, contains_of_isWordSign sign (by decide),
      contains_of_isWordSign sign (by decide), refused (by decide), refused (by decide),
      refused (by decide)]
    rfl

/-! ### Texts between quotes and in blocks -/

structure Quotable (content : Text) : Prop where
  printable : ∀ character ∈ content, isPrintable character = true
  noNewline : '\n' ∉ content
  before : content.IsChain fun left right => left = ' ' → isBreak right = false
  behind : content.IsChain fun left right => isBreak left = true → right ≠ ' '

/-- What is known of a text that is written in a style. -/
inductive Styled (content : Text) : ScalarStyle → Prop
  | plain (unambiguous : isAmbiguous content = false) (plain : Plain content) :
      Styled content .plain
  | singleQuoted (quotable : Quotable content) : Styled content .singleQuoted
  | doubleQuoted : Styled content .doubleQuoted
  | literal (inhabited : content ≠ [])
      (printable : ∀ character ∈ content, isPrintable character = true) : Styled content .literal

theorem quotable_of_fitsSingleQuotes {content : Text} (noNewline : '\n' ∉ content)
    (fits : fitsSingleQuotes content = true) : Quotable content := by
  simp only [fitsSingleQuotes, indentsLine, Bool.and_eq_true, Bool.not_eq_true'] at fits
  have spaced := isChain_of_adjacent (Bool.or_eq_false_iff.mp fits.1).2
  refine ⟨printable_of_needsEscapes fits.1, noNewline, spaced.imp fun left right apart => ?_,
    (isChain_of_adjacent fits.2).imp fun left right apart => ?_⟩
  · rintro rfl
    simpa using apart
  · intro breaks
    simpa [breaks] using apart

theorem styled_styleOf (content : Text) : Styled content (styleOf content) := by
  unfold styleOf
  by_cases newline : content.contains '\n' = true
  · rw [if_pos newline]
    by_cases fits : fitsBlock content = true
    · rw [if_pos fits]
      have inhabited : content ≠ [] := by
        rintro rfl
        cases newline
      simp only [fitsBlock, Bool.and_eq_true, Bool.not_eq_true'] at fits
      exact .literal inhabited (printable_of_needsEscapes fits.1)
    · rw [if_neg fits]
      exact .doubleQuoted
  · rw [if_neg newline]
    by_cases plain : (!isAmbiguous content && fitsPlain content) = true
    · rw [if_pos plain]
      simp only [Bool.and_eq_true, Bool.not_eq_true'] at plain
      have inhabited : content ≠ [] := by
        rintro rfl
        cases plain.1
      exact .plain plain.1 (plain_of_fitsPlain inhabited plain.2)
    · rw [if_neg plain]
      by_cases fits : fitsSingleQuotes content = true
      · rw [if_pos fits]
        exact .singleQuoted (quotable_of_fitsSingleQuotes (by simpa using newline) fits)
      · rw [if_neg fits]
        exact .doubleQuoted

/-! ### Indented lines -/

/-- A text whose lines stand behind an indentation; the first line does so at a break only. -/
def indented (indent : Nat) (atBreak : Bool) : Text → Text
  | [] => []
  | character :: rest =>
      if isBreak character then character :: indented indent true rest
      else (if atBreak then margin indent else []) ++ character :: indented indent false rest

def endsAtBreak (atBreak : Bool) (text : Text) : Bool :=
  text.foldl (fun _ character => isBreak character) atBreak

theorem indentLines_eq (indent : Nat) (atBreak : Bool) (written text : Text) :
    indentLines indent atBreak written text =
      (written.reverse ++ indented indent atBreak text, endsAtBreak atBreak text) := by
  induction text generalizing atBreak written with
  | nil => simp [indentLines, indented, endsAtBreak]
  | cons character rest ih =>
      by_cases breaks : isBreak character = true
      · simp [indentLines, indented, endsAtBreak, breaks, ih]
      · cases atBreak <;> simp [indentLines, indented, endsAtBreak, breaks, ih, margin]

theorem indented_append (indent : Nat) (atBreak : Bool) (first second : Text) :
    indented indent atBreak (first ++ second) =
      indented indent atBreak first ++ indented indent (endsAtBreak atBreak first) second := by
  induction first generalizing atBreak with
  | nil => rfl
  | cons character rest ih =>
      by_cases breaks : isBreak character = true <;>
        simp [indented, endsAtBreak, breaks, ih]

/-! ### Forms of a text -/

/-- A text with each single quote written twice. -/
def doubled (text : Text) : Text :=
  text.flatMap fun character => if character = '\'' then ['\'', '\''] else [character]

theorem singleQuoted_eq (indent : Nat) (content : Text) :
    singleQuoted indent content =
      '\'' :: (indented indent false (doubled content) ++
        ((if endsAtBreak false (doubled content) then margin indent else []) ++ ['\''])) := by
  simp [singleQuoted, indentLines_eq, doubled, margin]
  rfl

theorem literalBlock_eq (indent : Nat) (content : Text) :
    literalBlock indent content =
      '|' :: (blockMarks content ++ '\n' :: indented indent true content) := by
  simp [literalBlock, indentLines_eq]

end RepeatScan.Yaml
