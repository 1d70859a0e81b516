import RepeatScan.Output.Pairs
import RepeatScan.Proofs.Json.Literal

set_option autoImplicit false

/-! The reader that lines of pairs are written for. It cuts a line at commas outside quotes, and a quote
opens or closes quoting unless a backslash stands right before it. Main statement: fields that leave
quoting as they found it are read back from the line that joins them; plain texts, numbers and literals
are such fields. -/

namespace RepeatScan.Pairs

/-- Reads on inside a field, behind what is already read of it (last character first). Quoting may be
open, and a backslash may have been the last character. -/
def fieldsFrom (field : Text) (quoted escaped : Bool) : Text → Option (List Text)
  | [] => if quoted then none else some [field.reverse]
  | character :: rest =>
      if character = ',' ∧ quoted = false then
        (fieldsFrom [] false false rest).map (field.reverse :: ·)
      else
        fieldsFrom (character :: field)
          (if character = '"' ∧ escaped = false then !quoted else quoted) (character == '\\') rest

/-- The fields of a line, if quoting is closed at its end. -/
def fields? (line : Text) : Option (List Text) :=
  fieldsFrom [] false false line

/-- A field that is read to its end and leaves nothing open. -/
def Closed (field : Text) : Prop :=
  ∀ earlier rest, fieldsFrom earlier false false (field ++ rest) =
    fieldsFrom (field.reverse ++ earlier) false false rest

theorem fieldsFrom_comma (field rest : Text) :
    fieldsFrom field false false (',' :: rest) =
      (fieldsFrom [] false false rest).map (field.reverse :: ·) := by
  simp [fieldsFrom]

/-- Fields that leave nothing open are read back from the line that joins them. -/
theorem fields?_intercalate {fields : List Text} (inhabited : fields ≠ [])
    (closed : ∀ field ∈ fields, Closed field) :
    fields? ([','].intercalate fields) = some fields := by
  unfold fields?
  induction fields with
  | nil => contradiction
  | cons field later ih =>
      have first := closed field List.mem_cons_self
      cases later with
      | nil =>
          have read := first [] []
          rw [List.append_nil, List.append_nil] at read
          rw [List.intercalate_singleton, read]
          simp [fieldsFrom]
      | cons next others =>
          have rest := ih (List.cons_ne_nil next others)
            fun other listed => closed other (List.mem_cons_of_mem field listed)
          rw [List.intercalate_cons_cons, List.append_assoc, first, List.singleton_append,
            fieldsFrom_comma, rest]
          simp

/-! ### Plain texts and numbers -/

/-- Signs that the reader, or the end of a line, gives a meaning to. -/
def signs : List Char := [',', '"', '\\', '\n', '\r']

theorem closed_of_plain {text : Text} (plain : ∀ character ∈ text, character ∉ signs) :
    Closed text := by
  intro earlier rest
  induction text generalizing earlier with
  | nil => rfl
  | cons character later ih =>
      have first := plain character List.mem_cons_self
      simp only [signs, List.mem_cons, not_or] at first
      have step : fieldsFrom earlier false false (character :: (later ++ rest)) =
          fieldsFrom (character :: earlier) false false (later ++ rest) := by
        simp [fieldsFrom, first, beq_eq_false_iff_ne.mpr first.2.2.1]
      rw [List.cons_append, step, ih fun next member => plain next (List.mem_cons_of_mem _ member)]
      simp

theorem isPlain_iff {text : Text} :
    isPlain text = true ↔ ∀ character ∈ text, character ∉ signs := by
  simp [isPlain, signs, and_assoc]

theorem plain_decimal (number : Nat) : ∀ character ∈ Text.decimal number, character ∉ signs := by
  intro character member sign
  have digit : character.isDigit = true :=
    Nat.isDigit_of_mem_toDigits (by decide) (by decide) member
  have none : (signs.all fun other => !other.isDigit) = true := rfl
  have other := List.all_eq_true.mp none character sign
  rw [digit] at other
  cases other

/-! ### Literals -/

/-- Whether a backslash is the last character behind a run; behind an empty run it is what it was. -/
def escapedBehind (escaped : Bool) (run : Text) : Bool :=
  run.getLast?.elim escaped (· == '\\')

theorem fieldsFrom_run {run : Text} (noQuote : '"' ∉ run) (earlier : Text) (escaped : Bool)
    (rest : Text) :
    fieldsFrom earlier true escaped (run ++ rest) =
      fieldsFrom (run.reverse ++ earlier) true (escapedBehind escaped run) rest := by
  induction run generalizing earlier escaped with
  | nil => rfl
  | cons sign later ih =>
      obtain ⟨other, clear⟩ := List.ne_and_not_mem_of_not_mem_cons noQuote
      have step : fieldsFrom earlier true escaped (sign :: (later ++ rest)) =
          fieldsFrom (sign :: earlier) true (sign == '\\') (later ++ rest) := by
        simp [fieldsFrom, other.symm]
      have last : escapedBehind (sign == '\\') later = escapedBehind escaped (sign :: later) := by
        unfold escapedBehind
        rw [List.getLast?_cons]
        cases later.getLast? with
        | none => rfl
        | some other => rfl
      rw [List.cons_append, step, ih clear, last]
      simp

/-- No form of a character starts with a quote, so it does not matter what stands before it. -/
theorem fieldsFrom_form {character : Char} {form : Text} (written : Json.Form character form)
    (earlier : Text) (escaped : Bool) (rest : Text) :
    fieldsFrom earlier true escaped (form ++ rest) =
      fieldsFrom (form.reverse ++ earlier) true (escapedBehind escaped form) rest := by
  cases written with
  | plain noQuote _ _ => exact fieldsFrom_run (by simpa using noQuote.symm) earlier escaped rest
  | short letter _ => simp [fieldsFrom, escapedBehind]
  | unit _ =>
      refine fieldsFrom_run ?_ earlier escaped rest
      intro member
      simp only [List.mem_cons, Char.reduceEq, false_or] at member
      exact (Json.shown_hexDigits member).2.1 rfl

/-- Only the form of a backslash ends in one. -/
theorem escapedBehind_form {character : Char} {form : Text} (written : Json.Form character form)
    (other : character ≠ '\\') (escaped : Bool) : escapedBehind escaped form = false := by
  cases written with
  | plain _ noBackslash _ => simpa [escapedBehind] using noBackslash
  | short letter meant =>
      have noBackslash : letter ≠ '\\' := by
        rintro rfl
        exact other (Option.some.inj meant).symm
      simpa [escapedBehind] using noBackslash
  | unit _ =>
      have last : Text.hexDigit (character.toNat % 16) ∈ Text.hexDigits 4 character.toNat := by
        simp [Text.hexDigits]
      simpa [escapedBehind, Text.hexDigits] using (Json.shown_hexDigits last).2.2

theorem form_lastEscape (character : Char) : Json.Form character (lastEscape character) := by
  unfold lastEscape
  by_cases backslash : character = '\\'
  · subst backslash
    exact Json.Form.unit (by decide)
  · rw [if_neg backslash]
    exact Json.form_escape character

theorem escapedBehind_lastEscape (escaped : Bool) (character : Char) :
    escapedBehind escaped (lastEscape character) = false := by
  by_cases backslash : character = '\\'
  · subst backslash
    rfl
  · exact escapedBehind_form (form_lastEscape character) backslash escaped

theorem body_literalBody (text : Text) : Json.Body text (literalBody text) := by
  fun_induction literalBody text with
  | case1 => exact Json.Body.nil
  | case2 character =>
      have single := Json.Body.cons (form_lastEscape character) Json.Body.nil
      rwa [List.append_nil] at single
  | case3 character later _ ih => exact Json.Body.cons (Json.form_escape character) ih

/-- The quote behind a literal closes it, as the last form does not end in a backslash. -/
theorem fieldsFrom_literalBody (text earlier : Text) (escaped : Bool)
    (start : text = [] → escaped = false) (rest : Text) :
    fieldsFrom earlier true escaped (literalBody text ++ '"' :: rest) =
      fieldsFrom ('"' :: (literalBody text).reverse ++ earlier) false false rest := by
  fun_induction literalBody text generalizing earlier escaped with
  | case1 => simp [fieldsFrom, start]
  | case2 character =>
      rw [fieldsFrom_form (form_lastEscape character), escapedBehind_lastEscape]
      simp [fieldsFrom]
  | case3 character later more ih =>
      rw [List.append_assoc, fieldsFrom_form (Json.form_escape character), ih]
      · simp
      · intro none
        exact absurd none more

theorem closed_literal (text : Text) : Closed (literal text) := by
  intro earlier rest
  have opened : fieldsFrom earlier false false (literal text ++ rest) =
      fieldsFrom ('"' :: earlier) true false (literalBody text ++ '"' :: rest) := by
    simp [literal, fieldsFrom]
  rw [opened, fieldsFrom_literalBody text _ _ fun _ => rfl]
  simp [literal]

-- The comma and the quote of the text stay inside, and the backslash at its end does not hide the last quote.
example : literal "b,\"\\".toList = "\"b,\\\"\\u005c\"".toList ∧
    fields? ("a,".toList ++ literal "b,\"\\".toList ++ ",2".toList) =
      some [['a'], literal "b,\"\\".toList, ['2']] := by decide

theorem newline_not_mem_literal (text : Text) : '\n' ∉ literal text := by
  intro member
  simp only [literal, List.mem_append, List.mem_cons, Char.reduceEq, List.not_mem_nil, or_false,
    false_or] at member
  have shown := (body_literalBody text).shown '\n' member
  exact absurd shown (by decide)

end RepeatScan.Pairs
