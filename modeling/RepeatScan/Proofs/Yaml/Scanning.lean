import RepeatScan.Proofs.Yaml.Block
import RepeatScan.Proofs.Yaml.Quoted

set_option autoImplicit false

/-! How a scan goes on, token by token. It arrives at the next token over a gap, where lists and maps end
that are further in, and takes the token. Main statements: what the scan yields from a line that begins
with a name, and from what stands behind the name, if it is known what it yields from there on. -/

namespace RepeatScan.Yaml

namespace Scan

/-- The scan at the next token, with the lists and maps ended that are further in. -/
def arrive (scan : Scan) : Option Scan := do
  let reached := scan.toToken
  return (← reached.expireKeys).unindentTo reached.place.column

/-- The tokens that a scan comes to, token by token. -/
inductive Yields : Scan → List Token → Prop
  | finish {scan arrived ended : Scan} (arrive : scan.arrive = some arrived)
      (nothing : arrived.rest = []) (ends : arrived.unindentAll.dropKey = some ended) :
      Yields scan ended.emitted.reverse
  | step {scan arrived behind : Scan} {character : Char} {rest : Text} {tokens : List Token}
      (arrive : scan.arrive = some arrived) (begins : arrived.rest = character :: rest)
      (next : arrived.next character rest = some behind)
      (shorter : behind.rest.length ≤ rest.length) (later : Yields behind tokens) :
      Yields scan tokens

theorem length_skipGap_le (flow allowed comment : Bool) (place : Place) (text : Text) :
    (skipGap flow allowed comment place text).2.2.length ≤ text.length := by
  induction text generalizing allowed comment place with
  | nil => exact Nat.le_refl _
  | cons character rest ih =>
      rw [skipGap]
      split_ifs
      · exact Nat.le_succ_of_le (ih _ _ _)
      · exact Nat.le_succ_of_le (ih _ _ _)
      · exact Nat.le_succ_of_le (ih _ _ _)
      · exact Nat.le_succ_of_le (ih _ _ _)
      · exact Nat.le_refl _

theorem rest_unindentTo (scan : Scan) (column : Nat) :
    (scan.unindentTo column).rest = scan.rest := by
  unfold unindentTo
  split <;> rfl

theorem rest_of_expireKeys {scan expired : Scan} (expires : scan.expireKeys = some expired) :
    expired.rest = scan.rest := by
  simp only [expireKeys] at expires
  split at expires
  · cases expires
  · obtain rfl := Option.some.inj expires
    rfl

theorem length_rest_of_arrive {scan arrived : Scan} (arrive : scan.arrive = some arrived) :
    arrived.rest.length ≤ scan.rest.length := by
  obtain ⟨expired, expires, arrives⟩ := Option.bind_eq_some_iff.mp arrive
  obtain rfl := Option.some.inj arrives
  rw [rest_unindentTo, rest_of_expireKeys expires]
  exact length_skipGap_le _ _ _ _ _

theorem run_of_arrive {scan arrived : Scan} (arrive : scan.arrive = some arrived) (count : Nat) :
    scan.run (count + 1) = match arrived.rest with
      | [] => arrived.unindentAll.dropKey.map (·.emitted.reverse)
      | character :: rest => (arrived.next character rest).bind (run count) := by
  obtain ⟨expired, expires, arrives⟩ := Option.bind_eq_some_iff.mp arrive
  obtain rfl := Option.some.inj arrives
  rw [run]
  simp only [expires, Option.bind_eq_bind, Option.bind_some]
  cases (expired.unindentTo scan.toToken.place.column).rest with
  | nil => cases (expired.unindentTo scan.toToken.place.column).unindentAll.dropKey <;> rfl
  | cons character rest => rfl

/-- A scan that has time enough comes to its tokens. -/
theorem Yields.run {scan : Scan} {tokens : List Token} (yields : Yields scan tokens) :
    ∀ count, scan.rest.length < count → scan.run count = some tokens := by
  induction yields with
  | finish arrive nothing ends =>
      intro count enough
      obtain ⟨count, rfl⟩ := Nat.exists_eq_succ_of_ne_zero (Nat.ne_zero_of_lt enough)
      rw [run_of_arrive arrive, nothing]
      simp [ends]
  | step arrive begins next shorter later ih =>
      intro count enough
      obtain ⟨count, rfl⟩ := Nat.exists_eq_succ_of_ne_zero (Nat.ne_zero_of_lt enough)
      have reached := length_rest_of_arrive arrive
      rw [begins, List.length_cons] at reached
      rw [run_of_arrive arrive, begins]
      simp only [next, Option.bind_some]
      exact ih count (by omega)

theorem Yields.congr {scan other : Scan} {tokens : List Token} (same : scan.arrive = other.arrive)
    (yields : Yields other tokens) : Yields scan tokens := by
  cases yields with
  | finish arrive nothing ends => exact .finish (same.trans arrive) nothing ends
  | step arrive begins next shorter later =>
      exact .step (same.trans arrive) begins next shorter later

/-! ### Arriving at a word -/

theorem skipGap_margin (flow allowed : Bool) (place : Place) (indent : Nat) (rest : Text) :
    skipGap flow allowed false place (margin indent ++ rest) =
      skipGap flow allowed false (place.forward indent) rest := by
  induction indent generalizing place with
  | zero => rfl
  | succ indent ih =>
      have noMark : isByteOrderMark ' ' = false := by decide
      have step : skipGap flow allowed false place (' ' :: (margin indent ++ rest)) =
          skipGap flow allowed false (place.forward 1) (margin indent ++ rest) := by
        rw [skipGap, if_neg (by simp [isBreak_space]), if_neg (by simp [noMark]), if_pos (by simp)]
      refine step.trans ?_
      rw [ih, Place.forward_forward, Nat.add_comm 1 indent]

theorem skipGap_word (flow allowed : Bool) (place : Place) {word : Text}
    (begins : BeginsWord word) :
    skipGap flow allowed false place word = (allowed, place, word) := by
  cases word with
  | nil => rfl
  | cons first later =>
      obtain ⟨noGap, noSign, noMark⟩ := begins first rfl
      simp only [isGap, isBlank, Bool.or_eq_false_iff, beq_eq_false_iff_ne] at noGap
      obtain ⟨⟨noSpace, noTab⟩, goes⟩ := noGap
      simp [skipGap, goes, noMark, noSpace, noTab, noSign]

/-- Outside brackets there is at most one possible key; it is none any more from a line on. -/
def SpentBy (line : Nat) (keys : List (Option KeyPlace)) : Prop :=
  ∃ key?, keys = [key?] ∧ ∀ key ∈ key?, key.required = false ∧ key.place.line < line

theorem expireKeys_of_spentBy {rest : Text} {place : Place} {emitted : List Token}
    {indents : List Nat} {keys : List (Option KeyPlace)} (spent : SpentBy place.line keys)
    (allowed : Bool) :
    expireKeys ⟨rest, place, emitted, indents, keys, allowed⟩ =
      some ⟨rest, place, emitted, indents, [none], allowed⟩ := by
  obtain ⟨key?, rfl, all⟩ := spent
  cases key? with
  | none => rfl
  | some key =>
      obtain ⟨optional, earlier⟩ := all key rfl
      have stale : isStale place key = true := by simp [isStale, earlier]
      simp [expireKeys, Option.filter, stale, optional]

theorem arrive_margin (indent : Nat) {word : Text} (begins : BeginsWord word) {place : Place}
    {keys : List (Option KeyPlace)} (spent : SpentBy place.line keys) (emitted : List Token)
    (indents : List Nat) (allowed : Bool) :
    arrive ⟨margin indent ++ word, place, emitted, indents, keys, allowed⟩ =
      some (unindentTo ⟨word, place.forward indent, emitted, indents, [none], allowed⟩
        (place.column + indent)) := by
  have reached : toToken ⟨margin indent ++ word, place, emitted, indents, keys, allowed⟩ =
      ⟨word, place.forward indent, emitted, indents, keys, allowed⟩ := by
    simp [toToken, skipGap_margin, skipGap_word _ _ _ begins]
  have there : SpentBy (place.forward indent).line keys := spent
  simp [arrive, reached, expireKeys_of_spentBy there]

theorem arrive_newline {indent : Nat} {word : Text} (begins : BeginsWord word) {place : Place}
    {keys : List (Option KeyPlace)} (spent : SpentBy (place.line + 1) keys) (emitted : List Token)
    (indents : List Nat) (allowed : Bool) :
    arrive ⟨'\n' :: (margin indent ++ word), place, emitted, indents, keys, allowed⟩ =
      some (unindentTo ⟨word, (place.advance '\n').forward indent, emitted, indents, [none], true⟩
        indent) := by
  have advance := Place.advance_of_isBreak isBreak_newline place
  have block : inFlow ⟨'\n' :: (margin indent ++ word), place, emitted, indents, keys, allowed⟩ =
      false := by
    obtain ⟨key?, rfl, -⟩ := spent
    rfl
  have reached :
      toToken ⟨'\n' :: (margin indent ++ word), place, emitted, indents, keys, allowed⟩ =
        ⟨word, (place.advance '\n').forward indent, emitted, indents, keys, true⟩ := by
    simp [toToken, block, skipGap, isBreak_newline, skipGap_margin, skipGap_word _ _ _ begins]
  have there : SpentBy ((place.advance '\n').forward indent).line keys := by
    rwa [Place.line_forward, advance]
  have column : (place.advance '\n').column = 0 := by rw [advance]
  simp [arrive, reached, expireKeys_of_spentBy there, column]

theorem unindentTo_within {scan : Scan} {column : Nat}
    (within : ∀ level ∈ scan.indents.head?, level ≤ column) : scan.unindentTo column = scan := by
  unfold unindentTo
  split
  · rfl
  · have none : scan.indents.takeWhile (column < ·) = [] := by
      cases levels : scan.indents with
      | nil => rfl
      | cons level outer =>
          rw [levels] at within
          simp [within level rfl]
    simp [none]

/-- Behind the beginning of a line no directive and no mark of a document is looked for. -/
theorem next_inLine {scan : Scan} (inLine : 0 < scan.place.column) (character : Char)
    (rest : Text) :
    scan.next character rest = scan.takeToken character rest := by
  have started := Nat.ne_of_gt inLine
  unfold next
  rw [if_neg (by simp [started])]
  cases documentMark? (character :: rest) with
  | none => rfl
  | some mark => simp [started]

/-! ### Behind the name of a field -/

/-- A text that goes on no further in than a column. -/
def Outside (column : Nat) (text : Text) : Prop :=
  ∃ indent word, indent ≤ column ∧ BeginsWord word ∧ text = margin indent ++ word

/-- What a scan yields from the beginning of a line. -/
def YieldsLine (text : Text) (emitted : List Token) (indents : List Nat) (tokens : List Token) :
    Prop :=
  ∀ place : Place, place.column = 0 → Yields ⟨text, place, emitted, indents, [none], true⟩ tokens

/-- What a scan yields behind the name of a field or the mark of an item, at a place that is further
in than its line. -/
def YieldsBehind (allowed : Bool) (text : Text) (emitted : List Token) (indents : List Nat)
    (tokens : List Token) : Prop :=
  ∀ place : Place, (∀ level ∈ indents.head?, level ≤ place.column) →
    Yields ⟨text, place, emitted, indents, [none], allowed⟩ tokens

theorem spentBy_none (line : Nat) : SpentBy line [none] :=
  ⟨none, rfl, nofun⟩

section

variable {emitted tokens : List Token} {indents : List Nat}

theorem YieldsLine.at_word {indent : Nat} {word : Text} (begins : BeginsWord word)
    (yields : YieldsLine (margin indent ++ word) emitted indents tokens) {place : Place}
    (atLine : place.column = 0) {keys : List (Option KeyPlace)} (spent : SpentBy place.line keys) :
    Yields ⟨word, place.forward indent, emitted, indents, keys, true⟩ tokens := by
  refine Yields.congr ?_ (yields place atLine)
  have there : SpentBy (place.forward indent).line keys := spent
  have here := arrive_margin 0 begins there emitted indents true
  rw [arrive_margin indent begins (spentBy_none _)]
  exact here

theorem YieldsLine.at_newline {column : Nat} {text : Text} (outside : Outside column text)
    (yields : YieldsLine text emitted indents tokens) {place : Place}
    {keys : List (Option KeyPlace)} (spent : SpentBy (place.line + 1) keys) (allowed : Bool) :
    Yields ⟨'\n' :: text, place, emitted, indents, keys, allowed⟩ tokens := by
  obtain ⟨indent, word, -, begins, rfl⟩ := outside
  have atLine : (place.advance '\n').column = 0 := by rw [Place.advance_of_isBreak isBreak_newline]
  refine Yields.congr ?_ (yields (place.advance '\n') atLine)
  rw [arrive_newline begins spent, arrive_margin indent begins (spentBy_none _), atLine,
    Nat.zero_add]

theorem YieldsBehind.intro {allowed : Bool} {first : Char} {rest : Text}
    (begins : BeginsWord (first :: rest))
    (taken : ∀ place : Place, (∀ level ∈ indents.head?, level < place.column) → 0 < place.column →
      ∃ behind, takeToken ⟨first :: rest, place, emitted, indents, [none], allowed⟩ first rest =
        some behind ∧ behind.rest.length ≤ rest.length ∧ Yields behind tokens) :
    YieldsBehind allowed (' ' :: first :: rest) emitted indents tokens := by
  intro place inside
  have arrived := arrive_margin 1 begins (spentBy_none place.line) emitted indents
    allowed
  rw [unindentTo_within (fun level outer => Nat.le_succ_of_le (inside level outer))] at arrived
  obtain ⟨behind, next, shorter, later⟩ := taken (place.forward 1)
    (fun level outer => Nat.lt_succ_of_le (inside level outer)) (Nat.succ_pos _)
  exact .step arrived rfl ((next_inLine (Nat.succ_pos _) _ _).trans next) shorter later

/-- Where a key would be too far in, a possible one is forgotten behind the line. -/
theorem exists_saveKey {place : Place} (further : ∀ level ∈ indents.head?, level < place.column)
    (rest : Text) (emitted : List Token) (allowed : Bool) :
    ∃ keys, SpentBy (place.line + 1) keys ∧
      saveKey ⟨rest, place, emitted, indents, [none], allowed⟩ =
        some ⟨rest, place, emitted, indents, keys, allowed⟩ := by
  cases allowed with
  | false => exact ⟨[none], spentBy_none _, rfl⟩
  | true =>
      have optional : indents.head? ≠ some place.column :=
        fun same => Nat.lt_irrefl _ (further _ same)
      refine ⟨[some ⟨false, emitted.length, place⟩], ⟨_, rfl, ?_⟩, ?_⟩
      · rintro key ⟨⟩
        exact ⟨rfl, Nat.lt_succ_self _⟩
      · simp [saveKey, dropKey, optional]

theorem yieldsBehind_plain {content next : Text} (plain : Plain content) {level : Nat}
    {outer : List Nat} (outside : Outside level next) (allowed : Bool)
    (later : YieldsLine next (.scalar .plain content :: emitted) (level :: outer) tokens) :
    YieldsBehind allowed (' ' :: (content ++ '\n' :: next)) emitted (level :: outer) tokens := by
  obtain ⟨indent, word, lower, begins, rfl⟩ := outside
  obtain ⟨first, rest, rfl⟩ := List.exists_cons_of_ne_nil plain.inhabited
  refine YieldsBehind.intro (plain.beginsWord _) fun place further _ => ?_
  obtain ⟨_, ⟨key?, rfl, idle⟩, saved⟩ := exists_saveKey further
    (first :: (rest ++ '\n' :: (margin indent ++ word))) emitted allowed
  have read := plain.read_line begins (Nat.lt_succ_of_le lower) (further level rfl)
  rw [List.cons_append] at read
  have advance := Place.advance_of_isBreak isBreak_newline (place.forward (first :: rest).length)
  generalize (place.forward (first :: rest).length).advance '\n' = behind at advance read
  refine ⟨⟨word, behind.forward indent, .scalar .plain (first :: rest) :: emitted, level :: outer,
    [key?], true⟩, ?_, ?_, ?_⟩
  · refine (plain.takeToken rfl _).trans ?_
    simp [takePlain, saved, inFlow, read, takeScalar, emit]
  · simp
    omega
  · refine later.at_word begins (by rw [advance]) ⟨key?, rfl, ?_⟩
    rwa [advance]

theorem SpentBy.mono {line later : Nat} {keys : List (Option KeyPlace)} (spent : SpentBy line keys)
    (behind : line ≤ later) : SpentBy later keys := by
  obtain ⟨key?, same, idle⟩ := spent
  exact ⟨key?, same, fun key given =>
    ⟨(idle key given).1, Nat.lt_of_lt_of_le (idle key given).2 behind⟩⟩

theorem yieldsBehind_quoted (double : Bool) {written content next : Text} {level : Nat}
    {outer : List Nat} (outside : Outside level next) (allowed : Bool)
    (read : ∀ place : Place, 0 < place.column → ∃ place' : Place, place.line ≤ place'.line ∧
      quotedFrom double place [] .empty .content (written ++ '\n' :: next) =
        some ⟨content, place', '\n' :: next⟩)
    (later : YieldsLine next
      (.scalar (if double then .doubleQuoted else .singleQuoted) content :: emitted)
      (level :: outer) tokens) :
    YieldsBehind allowed
      (' ' :: (if double then '"' else '\'') :: (written ++ '\n' :: next)) emitted
      (level :: outer) tokens := by
  have begins : BeginsWord ((if double then '"' else '\'') :: (written ++ '\n' :: next)) := by
    rintro _ ⟨⟩
    cases double <;> decide
  refine YieldsBehind.intro begins fun place further _ => ?_
  obtain ⟨keys, spent, saved⟩ := exists_saveKey further
    ((if double then '"' else '\'') :: (written ++ '\n' :: next)) emitted allowed
  obtain ⟨behind, lines, reads⟩ := read (place.forward 1) (Nat.succ_pos _)
  refine ⟨⟨'\n' :: next, behind,
    .scalar (if double then .doubleQuoted else .singleQuoted) content :: emitted, level :: outer,
    keys, false⟩, ?_, by simp, later.at_newline outside (spent.mono (Nat.succ_le_succ lines)) false⟩
  cases double <;> simp at saved reads <;>
    simp [takeToken, takeQuoted, saved, reads, takeScalar, emit]

theorem yieldsBehind_literal {content next : Text} (inhabited : content ≠ []) {level : Nat}
    {outer : List Nat} (outside : Outside level next) (allowed : Bool)
    (later : YieldsLine next (.scalar .literal content :: emitted) (level :: outer) tokens) :
    YieldsBehind allowed
      (' ' :: '|' :: (blockMarks content ++ '\n' :: (indented (level + indentStep) true content ++
        ((if endsAtBreak true content then [] else ['\n']) ++ next)))) emitted
      (level :: outer) tokens := by
  obtain ⟨indent, word, lower, begins, rfl⟩ := outside
  refine YieldsBehind.intro (by rintro _ ⟨⟩; decide) fun place further _ => ?_
  obtain ⟨behind, atLine, read⟩ := block?_literalBlock inhabited lower (place.forward 1) begins
  refine ⟨⟨word, behind.forward indent, .scalar .literal content :: emitted, level :: outer, [none],
    true⟩, ?_, by simp; omega, later.at_word begins atLine (spentBy_none _)⟩
  simp [takeToken, takeBlock, inFlow, dropKey, read, takeScalar, emit]

theorem yieldsBehind_emptyList {next : Text} {level : Nat} {outer : List Nat}
    (outside : Outside level next)
    (later : YieldsLine next (.closeList :: .openList :: emitted) (level :: outer) tokens) :
    YieldsBehind false (' ' :: '[' :: ']' :: '\n' :: next) emitted (level :: outer) tokens := by
  refine YieldsBehind.intro (by rintro _ ⟨⟩; decide) fun place further _ => ?_
  have breaks : isBreak ']' = false := by decide
  have arrived : arrive ⟨']' :: '\n' :: next, place.forward 1, .openList :: emitted,
      level :: outer, [none, none], true⟩ = some ⟨']' :: '\n' :: next, place.forward 1,
        .openList :: emitted, level :: outer, [none, none], true⟩ := by
    simp [arrive, toToken, skipGap, breaks, expireKeys, unindentTo, inFlow]
  have closes : takeToken ⟨']' :: '\n' :: next, place.forward 1, .openList :: emitted,
      level :: outer, [none, none], true⟩ ']' ('\n' :: next) =
        some ⟨'\n' :: next, (place.forward 1).forward 1, .closeList :: .openList :: emitted,
          level :: outer, [none], false⟩ := rfl
  exact ⟨⟨']' :: '\n' :: next, place.forward 1, .openList :: emitted, level :: outer, [none, none],
    true⟩, rfl, Nat.le_refl _, .step arrived rfl
      ((next_inLine (Nat.succ_pos _) _ _).trans closes) (Nat.le_refl _)
      (later.at_newline outside (spentBy_none _) false)⟩

/-! ### Lines -/

/-- At the end of a text the outermost map ends. -/
theorem yieldsLine_nil (emitted : List Token) :
    YieldsLine [] emitted [0] (.blockEnd :: emitted).reverse := by
  intro place atLine
  have arrived : arrive ⟨[], place, emitted, [0], [none], true⟩ =
      some ⟨[], place, emitted, [0], [none], true⟩ := by
    simp [arrive, toToken, skipGap, expireKeys, unindentTo, inFlow]
  exact .finish arrived rfl rfl

theorem YieldsLine.ended {next : Text} {level inner : Nat} (outside : Outside level next)
    (further : level < inner) (later : YieldsLine next (.blockEnd :: emitted) indents tokens) :
    YieldsLine next emitted (inner :: indents) tokens := by
  obtain ⟨indent, word, lower, begins, rfl⟩ := outside
  intro place atLine
  refine Yields.congr ?_ (later place atLine)
  rw [arrive_margin indent begins (spentBy_none _), arrive_margin indent begins (spentBy_none _)]
  have ends : indent < inner := Nat.lt_of_le_of_lt lower further
  simp [unindentTo, inFlow, atLine, ends, List.replicate_succ']

theorem yieldsLine_item {rest : Text} {level : Nat} {outer : List Nat}
    (later : YieldsBehind true (' ' :: rest) (.item :: emitted) (level :: outer) tokens) :
    YieldsLine (margin level ++ '-' :: ' ' :: rest) emitted (level :: outer) tokens := by
  intro place atLine
  have begins : BeginsWord ('-' :: ' ' :: rest) := by
    rintro _ ⟨⟩
    decide
  have arrived := arrive_margin level begins (spentBy_none place.line) emitted (level :: outer) true
  rw [unindentTo_within (by rintro _ ⟨⟩; simp)] at arrived
  have taken : takeToken ⟨'-' :: ' ' :: rest, place.forward level, emitted, level :: outer, [none],
      true⟩ '-' (' ' :: rest) = some ⟨' ' :: rest, (place.forward level).forward 1,
        .item :: emitted, level :: outer, [none], true⟩ := by
    simp [takeToken, startsGap, isGap, isBlank, takeItem, indentTo, inFlow, atLine, dropKey,
      takeMark, emit, skip]
  have next : Scan.next ⟨'-' :: ' ' :: rest, place.forward level, emitted, level :: outer, [none],
      true⟩ '-' (' ' :: rest) = takeToken ⟨'-' :: ' ' :: rest, place.forward level, emitted,
        level :: outer, [none], true⟩ '-' (' ' :: rest) := by
    simp [Scan.next, documentMark?]
  exact .step arrived rfl (next.trans taken) (Nat.le_refl _) (later _ (by rintro _ ⟨⟩; simp; omega))

/-- The first name of a map opens it; the others stand in the same column. -/
inductive Opens (level : Nat) (outer : List Nat) (emitted : List Token) :
    List Nat → List Token → Prop
  | first (further : ∀ above ∈ outer.head?, above < level) :
      Opens level outer emitted outer (.mapStart :: emitted)
  | later : Opens level outer emitted (level :: outer) emitted

theorem documentMark?_name {name : Text} (unmarked : startsLikeMark name = false) (rest : Text) :
    documentMark? (name ++ ':' :: rest) = none := by
  unfold documentMark?
  rcases name with _ | ⟨first, _ | ⟨second, _ | ⟨third, later⟩⟩⟩ <;> split <;>
    simp_all [startsLikeMark]

theorem next_name {name : Text} (plain : Plain name) {first : Char} {tail : Text}
    (split : name = first :: tail) {scan : Scan} (block : scan.inFlow = false) (rest : Text) :
    scan.next first (tail ++ ':' :: rest) = scan.takePlain := by
  subst split
  obtain ⟨_, _, same, -, apart, -⟩ := plain.exists_first
  obtain ⟨rfl, rfl⟩ := List.cons.inj same
  have noDirective := apart '%' (by decide)
  have noMark := documentMark?_name plain.unmarked rest
  rw [List.cons_append] at noMark
  rw [← plain.takeToken block (':' :: rest)]
  simp [Scan.next, noDirective, noMark]

theorem arrive_colon {place : Place} {key : KeyPlace} (fresh : isStale place key = false)
    (inside : ∀ above ∈ indents.head?, above ≤ place.column) (rest : Text) (emitted : List Token)
    (allowed : Bool) :
    arrive ⟨':' :: rest, place, emitted, indents, [some key], allowed⟩ =
      some ⟨':' :: rest, place, emitted, indents, [some key], allowed⟩ := by
  have begins : BeginsWord (':' :: rest) := by
    rintro _ ⟨⟩
    decide
  have there : unindentTo ⟨':' :: rest, place, emitted, indents, [some key], allowed⟩ place.column =
      ⟨':' :: rest, place, emitted, indents, [some key], allowed⟩ := unindentTo_within inside
  simpa [arrive, toToken, skipGap_word _ _ _ begins, expireKeys, Option.filter, fresh] using there

theorem takeValue_name {level : Nat} {outer : List Nat} {opened : List Token}
    (opens : Opens level outer emitted indents opened) {start : Place}
    (atLevel : start.column = level)
    (required : Bool) (name rest : Text) (place : Place) :
    takeValue ⟨':' :: rest, place, .scalar .plain name :: emitted, indents,
        [some ⟨required, emitted.length, start⟩], false⟩ =
      some ⟨rest, place.forward 1, .value :: .scalar .plain name :: .key :: opened, level :: outer,
        [none], false⟩ := by
  subst atLevel
  cases opens with
  | first further =>
      have deeper : indents.head?.all (· < start.column) = true := by
        cases indents with
        | nil => rfl
        | cons above outer => simpa using further above rfl
      have both : emitted.length + 1 + 1 - emitted.length = 2 := by omega
      simp [takeValue, emitBehind, indentTo, inFlow, takeMark, emit, skip, deeper, both]
  | later => simp [takeValue, emitBehind, indentTo, inFlow, takeMark, emit, skip]

theorem Opens.inside {level : Nat} {outer : List Nat} {opened : List Token}
    (opens : Opens level outer emitted indents opened) :
    ∀ above ∈ indents.head?, above ≤ level := by
  cases opens with
  | first further => exact fun above given => Nat.le_of_lt (further above given)
  | later =>
      rintro _ ⟨⟩
      exact Nat.le_refl _

/-- Behind a name the colon makes it a key. -/
theorem yields_colon {name rest : Text} (short : name.length ≤ keyLimit)
    (gap : startsGap rest = true) {level : Nat} {outer : List Nat} {opened : List Token}
    (opens : Opens level outer emitted indents opened)
    (later : YieldsBehind false rest (.value :: .scalar .plain name :: .key :: opened)
      (level :: outer) tokens) {start : Place} (atLevel : start.column = level) (required : Bool)
    (inhabited : name ≠ []) :
    Yields ⟨':' :: rest, start.forward name.length, .scalar .plain name :: emitted, indents,
      [some ⟨required, emitted.length, start⟩], false⟩ tokens := by
  have behind : level < (start.forward name.length).column := by
    have positive := List.length_pos_iff.mpr inhabited
    simp [atLevel, positive]
  have fresh : isStale (start.forward name.length) ⟨required, emitted.length, start⟩ = false := by
    simpa [isStale] using short
  have arrived := arrive_colon fresh
    (fun above given => (opens.inside above given).trans (Nat.le_of_lt behind)) rest
    (.scalar .plain name :: emitted) false
  have taken := takeValue_name opens atLevel required name rest (start.forward name.length)
  have next : Scan.next ⟨':' :: rest, start.forward name.length, .scalar .plain name :: emitted,
      indents, [some ⟨required, emitted.length, start⟩], false⟩ ':' rest = _ :=
    next_inLine (Nat.zero_lt_of_lt behind) ':' rest
  refine .step arrived rfl (next.trans (Eq.trans ?_ taken)) (Nat.le_refl _)
    (later ((start.forward name.length).forward 1) ?_)
  · simp [takeToken, gap]
  · rintro _ ⟨⟩
    exact Nat.le_succ_of_le (Nat.le_of_lt behind)

theorem yieldsLine_name {name rest : Text} (plain : Plain name) (short : name.length ≤ keyLimit)
    (gap : startsGap rest = true) {level : Nat} {outer : List Nat} {opened : List Token}
    (opens : Opens level outer emitted indents opened)
    (later : YieldsBehind false rest (.value :: .scalar .plain name :: .key :: opened)
      (level :: outer) tokens) :
    YieldsLine (margin level ++ (name ++ ':' :: rest)) emitted indents tokens := by
  intro place atLine
  have atLevel : (place.forward level).column = level := by simp [atLine]
  have arrived := arrive_margin level (plain.beginsWord (':' :: rest)) (spentBy_none place.line)
    emitted indents true
  rw [unindentTo_within (by simpa [atLine] using opens.inside)] at arrived
  generalize place.forward level = start at atLevel arrived
  have within : (indents.head?.map (· + 1)).getD 0 ≤ start.column + 1 := by
    rw [atLevel]
    cases indents with
    | nil => exact Nat.zero_le _
    | cons above outer => exact Nat.succ_le_succ (opens.inside above rfl)
  have read := plain.read_name gap within
  have key := yields_colon short gap opens later atLevel (indents.head? = some level)
    plain.inhabited
  obtain ⟨first, tail, rfl⟩ := List.exists_cons_of_ne_nil plain.inhabited
  refine .step arrived rfl ((next_name plain rfl rfl rest).trans ?_) ?_ key
  · rw [List.cons_append] at read
    simp [takePlain, saveKey, dropKey, inFlow, takeScalar, emit, atLevel, read]
  · simp

end

end Scan

end RepeatScan.Yaml
