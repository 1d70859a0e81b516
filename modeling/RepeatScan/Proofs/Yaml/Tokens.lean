import RepeatScan.Proofs.Yaml.Scanning

set_option autoImplicit false

/-! The tokens of a written value. Main statement: the scan of the lines of a record yields the tokens of
the record, whatever its texts are, if its names and words can stand without quotes. -/

namespace RepeatScan.Yaml

namespace Value

mutual

/-- A value that can be written: its words and names stand without quotes, names are no longer than
keys may be, and no record is empty. -/
inductive Writable : Value → Prop
  | word {content : Text} (plain : Plain content) : Writable (.word content)
  | text (content : Text) : Writable (.text content)
  | texts (items : List Text) : Writable (.texts items)
  | record {fields : List (Text × Value)} (inhabited : fields ≠ []) (all : WritableFields fields) :
      Writable (.record fields)

inductive WritableFields : List (Text × Value) → Prop
  | nil : WritableFields []
  | cons {name : Text} {value : Value} {later : List (Text × Value)} (plain : Plain name)
      (short : name.length ≤ Scan.keyLimit) (first : Writable value) (rest : WritableFields later) :
      WritableFields ((name, value) :: later)

end

/-- The lines of a list, each behind the mark of an item. -/
def itemLines (level : Nat) (items : List Text) : Text :=
  items.flatMap fun item => margin level ++ ['-', ' '] ++ textLine (level + indentStep) item

def itemTokens (items : List Text) : List Token :=
  items.flatMap fun item => [.item, .scalar (styleOf item) item]

mutual

def tokens : Value → List Token
  | .word content => [.scalar .plain content]
  | .text content => [.scalar (styleOf content) content]
  | .texts [] => [.openList, .closeList]
  | .texts items => itemTokens items
  | .record fields => .mapStart :: fieldTokens fields ++ [.blockEnd]

def fieldTokens : List (Text × Value) → List Token
  | [] => []
  | (name, value) :: later =>
      .key :: .scalar .plain name :: .value :: tokens value ++ fieldTokens later

end

end Value

/-! ### The lines of a text -/

theorem endLine_of_last {text : Text} (goes : ∀ last ∈ text.getLast?, isBreak last = false) :
    endLine text = text ++ ['\n'] := by
  unfold endLine
  cases last : text.getLast? with
  | none => rfl
  | some character => simp [goes character last]

theorem getLast?_indented {content : Text} (inhabited : content ≠ []) (indent : Nat)
    (atBreak : Bool) : (indented indent atBreak content).getLast? = content.getLast? := by
  obtain ⟨before, last, rfl⟩ := List.eq_nil_or_concat' content |>.resolve_left inhabited
  rw [indented_append]
  by_cases breaks : isBreak last = true <;> simp [indented, breaks]

theorem endLine_literalBlock {content : Text} (inhabited : content ≠ []) (indent : Nat) :
    endLine (literalBlock indent content) =
      '|' :: (blockMarks content ++ '\n' :: (indented indent true content ++
        (if endsAtBreak true content then [] else ['\n']))) := by
  have last : (literalBlock indent content).getLast? = content.getLast? := by
    have filled : indented indent true content ≠ [] := by
      rw [← List.getLast?_isSome, getLast?_indented inhabited]
      simpa using inhabited
    rw [← getLast?_indented inhabited indent true, literalBlock_eq]
    simp [List.getLast?_cons, List.getLast?_append, List.getLast?_eq_some_getLast filled]
  rw [endLine, last, ← endsAtBreak_eq inhabited true, literalBlock_eq]
  by_cases atBreak : endsAtBreak true content = true <;> simp [atBreak]

namespace Scan

variable {emitted tokens : List Token}

theorem yieldsBehind_text (content : Text) {next : Text} {level : Nat} {outer : List Nat}
    (outside : Outside level next) (allowed : Bool)
    (later : YieldsLine next (.scalar (styleOf content) content :: emitted) (level :: outer)
      tokens) :
    YieldsBehind allowed (' ' :: (textLine (level + indentStep) content ++ next)) emitted
      (level :: outer) tokens := by
  have styled := styled_styleOf content
  unfold textLine
  generalize styleOf content = style at styled later ⊢
  cases styled with
  | plain unambiguous plain =>
      have line : endLine (scalarText (level + indentStep) .plain content) = content ++ ['\n'] :=
        endLine_of_last fun last listed =>
          plain.unbroken last (List.mem_of_getLast? listed)
      rw [line, List.append_assoc]
      exact yieldsBehind_plain plain outside allowed later
  | singleQuoted quotable =>
      have split : singleQuoted (level + indentStep) content =
          '\'' :: (singleQuoted (level + indentStep) content).tail := by
        rw [singleQuoted_eq]
        rfl
      have line : endLine (scalarText (level + indentStep) .singleQuoted content) =
          singleQuoted (level + indentStep) content ++ ['\n'] := by
        refine endLine_of_last fun last listed => ?_
        obtain rfl : '\'' = last := by
          simpa [scalarText, singleQuoted_eq, List.getLast?_cons] using listed
        rfl
      rw [line, split, List.append_assoc, List.cons_append]
      refine yieldsBehind_quoted false outside allowed (fun place inLine => ?_) later
      exact quotedFrom_singleQuoted quotable (Nat.lt_add_left level (by decide)) inLine (by simp)
  | doubleQuoted =>
      have line : endLine (scalarText (level + indentStep) .doubleQuoted content) =
          '"' :: (content.flatMap quotedForm ++ ['"']) ++ ['\n'] := by
        refine endLine_of_last fun last listed => ?_
        obtain rfl : '"' = last := by
          simpa [scalarText, doubleQuoted_eq, List.getLast?_cons] using listed
        rfl
      rw [line, List.append_assoc]
      refine yieldsBehind_quoted true outside allowed (fun place inLine => ?_) later
      have whole : Gap.empty.broken = false := rfl
      obtain ⟨count, read⟩ := quotedFrom_doubleQuoted content place inLine [] whole ('\n' :: next)
      refine ⟨place.forward count, Nat.le_refl _, ?_⟩
      simpa using read
  | literal inhabited printable =>
      have line : endLine (scalarText (level + indentStep) .literal content) = _ :=
        endLine_literalBlock inhabited (level + indentStep)
      have read := yieldsBehind_literal inhabited outside allowed later
      rw [line]
      simpa using read

/-! ### The lines of a value -/

theorem Outside.mono {low high : Nat} {text : Text} (outside : Outside low text) (le : low ≤ high) :
    Outside high text := by
  obtain ⟨indent, word, lower, rest⟩ := outside
  exact ⟨indent, word, lower.trans le, rest⟩

theorem startsGap_lines (value : Value) (level : Nat) (next : Text) :
    startsGap (value.lines level ++ next) = true := by
  cases value with
  | word content => rfl
  | text content => rfl
  | texts items => cases items <;> rfl
  | record fields => rfl

theorem outside_itemLines {level : Nat} {next : Text} (outside : Outside level next)
    (items : List Text) : Outside level (Value.itemLines level items ++ next) := by
  cases items with
  | nil => exact outside
  | cons item later =>
      refine ⟨level, '-' :: ' ' :: (textLine (level + indentStep) item ++
        (Value.itemLines level later ++ next)), Nat.le_refl _, ?_, ?_⟩
      · rintro _ ⟨⟩
        decide
      · simp [Value.itemLines]

theorem yieldsLine_items {level : Nat} {outer : List Nat} {next : Text}
    (outside : Outside level next) (items : List Text) {emitted : List Token}
    (later : YieldsLine next ((Value.itemTokens items).reverse ++ emitted) (level :: outer)
      tokens) :
    YieldsLine (Value.itemLines level items ++ next) emitted (level :: outer) tokens := by
  induction items generalizing emitted with
  | nil => exact later
  | cons item items ih =>
      have rest : YieldsLine (Value.itemLines level items ++ next)
          (.scalar (styleOf item) item :: .item :: emitted) (level :: outer) tokens :=
        ih (by simpa [Value.itemTokens] using later)
      have line := yieldsLine_item
        (yieldsBehind_text item (outside_itemLines outside items) true rest)
      simpa [Value.itemLines] using line

theorem outside_fieldLines {level : Nat} {next : Text} (outside : Outside level next)
    {fields : List (Text × Value)} (writable : Value.WritableFields fields) :
    Outside level (Value.fieldLines level fields ++ next) := by
  cases writable with
  | nil => exact outside
  | @cons name value later plain =>
      refine ⟨level, name ++ ':' :: (value.lines level ++ (Value.fieldLines level later ++ next)),
        Nat.le_refl _, plain.beginsWord _, ?_⟩
      simp [Value.fieldLines]

/-- What stands in the lines below a name is read from the beginning of a line on. -/
theorem YieldsLine.below {text : Text} {level : Nat} (outside : Outside level text)
    {indents : List Nat} (yields : YieldsLine text emitted indents tokens) (allowed : Bool) :
    YieldsBehind allowed ('\n' :: text) emitted indents tokens :=
  fun _ _ => yields.at_newline outside (spentBy_none _) allowed

mutual

theorem yieldsBehind_lines {value : Value} (writable : value.Writable) {level : Nat}
    {outer : List Nat} {next : Text} (outside : Outside level next) {emitted : List Token}
    (later : YieldsLine next (value.tokens.reverse ++ emitted) (level :: outer) tokens) :
    YieldsBehind false (value.lines level ++ next) emitted (level :: outer) tokens := by
  cases writable with
  | @word content plain =>
      have read := yieldsBehind_plain plain outside false later
      simpa [Value.lines] using read
  | text content => exact yieldsBehind_text content outside false later
  | texts items =>
      cases items with
      | nil => exact yieldsBehind_emptyList outside later
      | cons item items =>
          have read := (yieldsLine_items outside (item :: items) later).below
            (outside_itemLines outside (item :: items)) false
          simpa [Value.lines, Value.itemLines, margin] using read
  | @record fields inhabited all =>
      have further : level < level + indentStep := Nat.lt_add_of_pos_right (by decide)
      have around : Outside (level + indentStep) next := outside.mono (Nat.le_of_lt further)
      have ended : YieldsLine next ((Value.fieldTokens fields).reverse ++ .mapStart :: emitted)
          ((level + indentStep) :: level :: outer) tokens :=
        YieldsLine.ended outside further (by simpa [Value.tokens] using later)
      have opens : Opens (level + indentStep) (level :: outer) emitted (level :: outer)
          (.mapStart :: emitted) := .first (by rintro _ ⟨⟩; exact further)
      exact (yieldsLine_fields all inhabited opens around ended).below
        (outside_fieldLines around all) false

theorem yieldsLine_fields {fields : List (Text × Value)} (writable : Value.WritableFields fields)
    (inhabited : fields ≠ []) {level : Nat} {outer indents : List Nat} {emitted opened : List Token}
    (opens : Opens level outer emitted indents opened) {next : Text} (outside : Outside level next)
    (later : YieldsLine next ((Value.fieldTokens fields).reverse ++ opened) (level :: outer)
      tokens) :
    YieldsLine (Value.fieldLines level fields ++ next) emitted indents tokens := by
  cases writable with
  | nil => exact absurd rfl inhabited
  | @cons name value fields plain short first rest =>
      have below : YieldsLine (Value.fieldLines level fields ++ next)
          (value.tokens.reverse ++ .value :: .scalar .plain name :: .key :: opened)
          (level :: outer) tokens := by
        by_cases last : fields = []
        · subst last
          simpa [Value.fieldTokens, Value.fieldLines] using later
        · exact yieldsLine_fields rest last .later outside
            (by simpa [Value.fieldTokens] using later)
      have line := yieldsLine_name plain short (startsGap_lines value level _) opens
        (yieldsBehind_lines first (outside_fieldLines outside rest) below)
      simpa [Value.fieldLines] using line

end

end Scan

/-- The lines of a record are scanned as its tokens. -/
theorem run_fieldLines {fields : List (Text × Value)} (writable : Value.WritableFields fields)
    (inhabited : fields ≠ []) {count : Nat} (enough : (Value.fieldLines 0 fields).length < count) :
    (Scan.start (Value.fieldLines 0 fields)).run count = some (Value.record fields).tokens := by
  have outside : Scan.Outside 0 [] := ⟨0, [], Nat.le_refl 0, by rintro _ ⟨⟩, rfl⟩
  have ends := Scan.yieldsLine_nil ((Value.fieldTokens fields).reverse ++ [.mapStart])
  have yields := Scan.yieldsLine_fields writable inhabited (.first (by rintro _ ⟨⟩)) outside ends
    .start rfl
  rw [List.append_nil] at yields
  have tokens := yields.run count enough
  simpa [Value.tokens, Scan.start] using tokens

end RepeatScan.Yaml
