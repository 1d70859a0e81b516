import RepeatScan.Proofs.Yaml.Tokens

set_option autoImplicit false

/-! The characters that values are written with. Main statement: the tokens of a written record are those
of the record, since all of its lines are printable. -/

namespace RepeatScan.Yaml

/-! ### Texts -/

theorem all_margin (indent : Nat) : (margin indent).all isPrintable = true := by
  simp [margin, isPrintable, Text.CodeRange.covers]

theorem all_capitalDigits (places number : Nat) :
    (capitalDigits places number).all isPrintable = true := by
  induction places generalizing number with
  | zero => rfl
  | succ places ih =>
      have last := (hexValue?_toUpper (Nat.mod_lt number (by decide : 16 > 0))).2
      simp [capitalDigits_succ, ih, last, -List.all_eq_true]

theorem all_escape (character : Char) : (escape character).all isPrintable = true := by
  have backslash : isPrintable '\\' = true := by decide
  rcases escape_cases character with ⟨letter, meant, form⟩ | ⟨sign, places, -, -, shown, -, form⟩
  · have shown := (escapedChar?_of_escapeLetter? meant).2.2.2
    simp [form, backslash, shown]
  · rw [form, List.all_cons, List.all_cons, backslash, shown, all_capitalDigits]
    rfl

theorem all_doubleQuoted (content : Text) : (doubleQuoted content).all isPrintable = true := by
  have quote : isPrintable '"' = true := by decide
  have forms : (content.flatMap quotedForm).all isPrintable = true := by
    rw [List.all_flatMap, List.all_eq_true]
    intro character _
    unfold quotedForm
    split
    · exact all_escape character
    · rename_i shown
      simp only [Bool.or_eq_true, not_or, Bool.not_eq_true, Bool.not_eq_false'] at shown
      simp [shown]
  rw [doubleQuoted_eq, List.all_cons, List.all_append, quote, forms, List.all_cons, quote]
  rfl

theorem all_indented {content : Text} (printable : content.all isPrintable = true) (indent : Nat)
    (atBreak : Bool) : (indented indent atBreak content).all isPrintable = true := by
  induction content generalizing atBreak with
  | nil => rfl
  | cons character later ih =>
      rw [List.all_cons, Bool.and_eq_true] at printable
      have rest := ih printable.2
      rw [indented]
      split
      · rw [List.all_cons, printable.1, rest]
        rfl
      · rw [List.all_append, List.all_cons, printable.1, rest]
        cases atBreak with
        | false => rfl
        | true => simpa using all_margin indent

theorem all_singleQuoted {content : Text} (printable : content.all isPrintable = true)
    (indent : Nat) : (singleQuoted indent content).all isPrintable = true := by
  have quote : isPrintable '\'' = true := by decide
  have quotes : (doubled content).all isPrintable = true := by
    rw [doubled, List.all_flatMap, List.all_eq_true]
    intro character listed
    split
    · simp [quote]
    · simp [List.all_eq_true.mp printable character listed]
  rw [singleQuoted_eq, List.all_cons, quote, List.all_append, all_indented quotes, List.all_append,
    List.all_cons, quote]
  split
  · simpa using all_margin indent
  · rfl

theorem all_literalBlock {content : Text} (printable : content.all isPrintable = true)
    (indent : Nat) : (literalBlock indent content).all isPrintable = true := by
  have marks : (blockMarks content).all isPrintable = true := by
    rw [blockMarks_eq]
    cases content.head?.any isGap <;> cases chompingOf content <;> decide
  have mark : isPrintable '|' = true := by decide
  have newline : isPrintable '\n' = true := by decide
  rw [literalBlock_eq, List.all_cons, mark, List.all_append, marks, List.all_cons, newline,
    all_indented printable]
  rfl

theorem all_textLine (indent : Nat) (content : Text) :
    (textLine indent content).all isPrintable = true := by
  have styled := styled_styleOf content
  unfold textLine endLine
  generalize styleOf content = style at styled ⊢
  have written : (scalarText indent style content).all isPrintable = true := by
    cases styled with
    | plain unambiguous plain => exact List.all_eq_true.mpr plain.printable
    | singleQuoted quotable =>
        exact all_singleQuoted (List.all_eq_true.mpr quotable.printable) indent
    | doubleQuoted => exact all_doubleQuoted content
    | literal inhabited printable =>
        exact all_literalBlock (List.all_eq_true.mpr printable) indent
  split
  · exact written
  · rw [List.all_append, written]
    decide

theorem all_itemLines (level : Nat) (items : List Text) :
    (Value.itemLines level items).all isPrintable = true := by
  rw [Value.itemLines, List.all_flatMap, List.all_eq_true]
  intro item _
  rw [List.all_append, List.all_append, all_margin, all_textLine]
  decide

/-! ### Values -/

mutual

theorem all_lines {value : Value} (writable : value.Writable) (level : Nat) :
    (value.lines level).all isPrintable = true := by
  have space : isPrintable ' ' = true := by decide
  have newline : isPrintable '\n' = true := by decide
  cases writable with
  | @word content plain =>
      have shown := List.all_eq_true.mpr plain.printable
      simp [Value.lines, space, newline, shown, -List.all_eq_true]
  | text content => simp [Value.lines, space, all_textLine, -List.all_eq_true]
  | texts items =>
      cases items with
      | nil =>
          rw [Value.lines]
          decide
      | cons item items =>
          have below := all_itemLines level (item :: items)
          rw [Value.itemLines] at below
          rw [Value.lines, List.all_cons, newline, below]
          · rfl
          · nofun
  | record inhabited all =>
      rw [Value.lines, List.all_cons, newline, all_fieldLines all]
      rfl

theorem all_fieldLines {fields : List (Text × Value)} (writable : Value.WritableFields fields)
    (level : Nat) : (Value.fieldLines level fields).all isPrintable = true := by
  cases writable with
  | nil => rfl
  | @cons name value later plain short first rest =>
      have colon : isPrintable ':' = true := by decide
      have shown := List.all_eq_true.mpr plain.printable
      simp [Value.fieldLines, all_margin, shown, colon, all_lines first, all_fieldLines rest,
        -List.all_eq_true]

end

theorem tokens?_fieldLines {fields : List (Text × Value)} (writable : Value.WritableFields fields)
    (inhabited : fields ≠ []) :
    tokens? (Value.fieldLines 0 fields) = some (Value.record fields).tokens := by
  have printable := List.all_eq_true.mp (all_fieldLines writable 0)
  have allowed : (Value.fieldLines 0 fields).all isAllowed = true :=
    List.all_eq_true.mpr fun character listed =>
      isAllowed_of_isPrintable (printable character listed)
  rw [tokens?, if_pos allowed, unifyBreaks_of_isPrintable printable]
  exact run_fieldLines writable inhabited (Nat.lt_succ_self _)

end RepeatScan.Yaml
