import RepeatScan.Proofs.Yaml.Styles
import RepeatScan.Yaml.Token.Scan

set_option autoImplicit false

/-! Plain scalars. A text that may stand without quotes is read up to a colon before a gap, or up to the
first word of a line that is not indented enough; which of them it is decides what may come next. -/

namespace RepeatScan.Yaml

namespace Gap

@[simp]
theorem isEmpty_empty : Gap.empty.isEmpty = true := rfl

@[simp]
theorem fill_empty (content : Text) : Gap.empty.fill content = content := rfl

theorem fill_of_not_broken {gap : Gap} (whole : gap.broken = false) (content : Text) :
    gap.fill content = gap.blanks ++ content := by
  simp [fill, whole]

theorem add_space {gap : Gap} (whole : gap.broken = false) :
    gap.add ' ' = { gap with blanks := ' ' :: gap.blanks } := by
  simp [add, isBreak_space, whole]

end Gap

theorem PlainEnd.isGap_head {character : Char} {later : Text}
    (ends : PlainEnd (character :: later)) (word : character ≠ ' ') : isGap character = false := by
  rw [isGap_of_isPrintable (ends.printable character List.mem_cons_self),
    ends.unbroken character List.mem_cons_self, beq_eq_false_iff_ne.mpr word]
  rfl

/-- Inside a plain scalar no colon ends it, whatever follows. -/
theorem PlainEnd.colon_head {character : Char} {later : Text}
    (ends : PlainEnd (character :: later)) (suffix : Text) :
    (character == ':' && startsGap (later ++ suffix)) = false := by
  by_cases colon : character = ':'
  · subst colon
    cases later with
    | nil => exact absurd rfl ends.last.2
    | cons next later =>
        have joined := (List.isChain_cons_cons.mp ends.neighbours).1.1 rfl
        simp [startsGap, joined]
  · simp [colon]

/-- A plain text is read to its end, whatever follows it. The gap before the rest of the text has been
passed inside a line. -/
theorem plainFrom_append {column : Nat} {content : Text} (ends : PlainEnd content) (suffix : Text)
    (place : Place) (within : column ≤ place.column + 1) (gap : Gap) (whole : gap.broken = false)
    (seam : gap.isEmpty = false →
      content.head? ≠ some '#' ∧ column ≤ place.column ∧ 0 < place.column)
    (spent : content = [] → gap = .empty) (read : Text) :
    plainFrom false column place read gap (content ++ suffix) =
      plainFrom false column (place.forward content.length) (content.reverse ++ gap.fill read)
        .empty suffix := by
  induction content generalizing place gap read with
  | nil => simp [spent rfl]
  | cons character later ih =>
      have advance := Place.advance_of_not_isBreak
        (ends.unbroken character List.mem_cons_self) place
      by_cases space : character = ' '
      · subst space
        have step : plainFrom false column place read gap (' ' :: (later ++ suffix)) =
            plainFrom false column (place.forward 1) read (gap.add ' ') (later ++ suffix) := by
          simp [plainFrom, isGap_space, whole, advance]
        have noSign : later.head? ≠ some '#' := by
          intro sign
          obtain ⟨behind, rfl⟩ := List.head?_eq_some_iff.mp sign
          exact (List.isChain_cons_cons.mp ends.neighbours).1.2 isGap_space rfl
        have inhabited : later ≠ [] := by
          rintro rfl
          exact ends.last.1 rfl
        have stays : (gap.add ' ').broken = false := by
          simp [Gap.add_space, whole]
        rw [List.cons_append, step, ih ends.tail (place.forward 1) (Nat.le_succ_of_le within)
          (gap.add ' ') stays (fun _ => ⟨noSign, within, Nat.succ_pos _⟩)
          (fun empty => absurd empty inhabited)]
        simp [Gap.fill_of_not_broken, Gap.add_space, whole, Nat.add_comm]
      · have goesOn : (!gap.isEmpty &&
            endsBeforeWord false column place (character :: (later ++ suffix))) = false := by
          cases passed : gap.isEmpty with
          | true => rfl
          | false =>
              obtain ⟨noSign, inside, started⟩ := seam passed
              have noSign : character ≠ '#' := by simpa using noSign
              simp [endsBeforeWord, noSign, Nat.not_lt.mpr inside, Nat.ne_of_gt started]
        have step : plainFrom false column place read gap (character :: (later ++ suffix)) =
            plainFrom false column (place.forward 1) (character :: gap.fill read) .empty
              (later ++ suffix) := by
          rw [plainFrom, if_neg (by simp [ends.isGap_head space]), goesOn, ends.colon_head suffix,
            advance]
          simp
        rw [List.cons_append, step, ih ends.tail (place.forward 1) (Nat.le_succ_of_le within) .empty
          rfl nofun (fun _ => rfl)]
        simp [Nat.add_comm]

theorem plainFrom_colon {rest : Text} (gap : startsGap rest = true) (column : Nat) (place : Place)
    (read : Text) :
    plainFrom false column place read .empty (':' :: rest) =
      some (⟨read.reverse, place, ':' :: rest⟩, false) := by
  have noGap : isGap ':' = false := by decide
  rw [plainFrom, if_neg (by simp [noGap])]
  simp [gap, Gap.empty]

/-- Behind a line break a plain scalar ends at a word that is not indented enough. -/
theorem plainFrom_margin {column indent : Nat} (place : Place)
    (outside : place.column + indent < column) {word : Text} (begins : BeginsWord word) {gap : Gap}
    (broken : gap.broken = true) (read : Text) :
    plainFrom false column place read gap (margin indent ++ word) =
      some (⟨read.reverse, place.forward indent, word⟩, true) := by
  induction indent generalizing place with
  | zero =>
      cases word with
      | nil => simp [margin, plainFrom, broken]
      | cons first later =>
          have noGap := (begins first rfl).1
          have inside : gap.isEmpty = false := by simp [Gap.isEmpty, broken]
          have before : place.column < column := outside
          simp [margin, plainFrom, noGap, inside, endsBeforeWord, before, broken]
  | succ indent ih =>
      have step : plainFrom false column place read gap (' ' :: (margin indent ++ word)) =
          plainFrom false column (place.forward 1) read gap (margin indent ++ word) := by
        simp [plainFrom, isGap_space, Gap.add, isBreak_space, broken, Place.advance]
      have rest := ih (place.forward 1) (by simp; omega)
      rw [Place.forward_forward, Nat.add_comm 1 indent] at rest
      exact step.trans rest

theorem Plain.read_name {content rest : Text} (plain : Plain content)
    (gap : startsGap rest = true) {column : Nat} {place : Place}
    (within : column ≤ place.column + 1) :
    plainFrom false column place [] .empty (content ++ ':' :: rest) =
      some (⟨content, place.forward content.length, ':' :: rest⟩, false) := by
  rw [plainFrom_append plain.toPlainEnd _ place within .empty rfl nofun (fun _ => rfl)]
  simp [plainFrom_colon gap]

theorem Plain.read_line {content word : Text} (plain : Plain content) (begins : BeginsWord word)
    {column indent : Nat} (outside : indent < column) {place : Place}
    (within : column ≤ place.column) :
    plainFrom false column place [] .empty (content ++ '\n' :: (margin indent ++ word)) =
      some (⟨content, ((place.forward content.length).advance '\n').forward indent, word⟩,
        true) := by
  have lower : ((place.forward content.length).advance '\n').column + indent < column := by
    simpa [Place.advance_of_isBreak isBreak_newline] using outside
  rw [plainFrom_append plain.toPlainEnd _ place (Nat.le_succ_of_le within) .empty rfl nofun
    (fun _ => rfl), plainFrom, if_pos isGap_newline, if_neg (by simp [Gap.empty]),
    plainFrom_margin _ lower begins (by simp [Gap.add, isBreak_newline, Gap.empty])]
  simp

/-! ### Where a plain scalar begins -/

/-- The first character of a plain scalar is no mark of another token, and those that may be one do
not stand before a gap. -/
theorem Plain.exists_first {content : Text} (plain : Plain content) :
    ∃ first later, content = first :: later ∧ isGap first = false ∧
      (∀ sign ∈ "#,[]&*!|>'\"%@\x7b\x7d\x60".toList, first ≠ sign) ∧
      ∀ suffix, first = '?' ∨ first = ':' ∨ first = '-' → startsGap (later ++ suffix) = false := by
  obtain ⟨first, later, rfl⟩ := List.exists_cons_of_ne_nil plain.inhabited
  have noSpace : first ≠ ' ' := by simpa using plain.head
  obtain ⟨apart, behind⟩ : (∀ sign ∈ "#,[]&*!|>'\"%@\x7b\x7d\x60".toList, first ≠ sign) ∧
      (first = '?' ∨ first = ':' ∨ first = '-' → startsGap later = false) := by
    simpa [startsIndicator, and_assoc] using plain.begins
  refine ⟨first, later, rfl, plain.toPlainEnd.isGap_head noSpace, apart, fun suffix mark => ?_⟩
  cases later with
  | nil => cases behind mark
  | cons next later => exact behind mark

theorem Plain.beginsWord {content : Text} (plain : Plain content) (suffix : Text) :
    BeginsWord (content ++ suffix) := by
  obtain ⟨first, later, rfl, noGap, apart, -⟩ := plain.exists_first
  rintro character same
  obtain rfl : first = character := by simpa using same
  exact ⟨noGap, apart '#' (by decide),
    not_isByteOrderMark_of_isPrintable (plain.printable first List.mem_cons_self)⟩

theorem not_isBlank_of_startsGap {text : Text} (word : startsGap text = false) :
    text.head?.any isBlank = false := by
  cases text with
  | nil => rfl
  | cons first later => exact (Bool.or_eq_false_iff.mp word).1

theorem Plain.takeToken {first : Char} {later : Text} (plain : Plain (first :: later))
    {scan : Scan} (block : scan.inFlow = false) (suffix : Text) :
    scan.takeToken first (later ++ suffix) = scan.takePlain := by
  obtain ⟨_, _, same, noGap, apart, behind⟩ := plain.exists_first
  obtain ⟨rfl, rfl⟩ := List.cons.inj same
  have behind := behind suffix
  generalize later ++ suffix = rest at behind ⊢
  simp only [String.reduceToList, List.forall_mem_cons] at apart
  by_cases mark : first = '?' ∨ first = ':' ∨ first = '-'
  · have word := behind mark
    have noBlank := not_isBlank_of_startsGap word
    rcases mark with rfl | rfl | rfl <;>
      simp [Scan.takeToken, Scan.startsPlain, block, word, noBlank]
  · simp only [not_or] at mark
    have starts : Scan.startsPlain false first rest = true := by
      simp [Scan.startsPlain, Scan.isIndicator, isFlowMark, noGap, apart, mark]
    simp [Scan.takeToken, block, apart, mark, starts]

end RepeatScan.Yaml
