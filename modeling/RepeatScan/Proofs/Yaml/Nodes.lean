import RepeatScan.Proofs.Yaml.Printed
import RepeatScan.Yaml.Document

set_option autoImplicit false

/-! The node that the tokens of a value make up. Main statement: the document of a written record is the
node of the record. -/

namespace RepeatScan.Yaml

namespace Composing

variable (references : References) (numbers : List (Text × Nat)) (nodes : List (Nat × Node))

theorem node_item (depth : Nat) (rest : List Token) :
    node references (depth + 1) true true ⟨.item :: rest, numbers, nodes⟩ =
      (levelItems references depth ⟨.item :: rest, numbers, nodes⟩).bind fun found =>
        some (.sequence found.1, found.2) :=
  rfl

theorem node_mapStart (depth : Nat) (level : Bool) (rest : List Token) :
    node references (depth + 1) true level ⟨.mapStart :: rest, numbers, nodes⟩ =
      (blockEntries references depth ⟨rest, numbers, nodes⟩).bind fun found =>
        some (.mapping found.1, found.2) :=
  rfl

theorem unless?_token {ends : List Token} {token : Token} (goes : token ∉ ends)
    (compose : Composing Node) (rest : List Token) :
    unless? ends compose ⟨token :: rest, numbers, nodes⟩ =
      compose ⟨token :: rest, numbers, nodes⟩ := by
  have absent : ends.contains token = false := by simpa using goes
  change (if ends.contains token then pure .void else compose : Composing Node)
    ⟨token :: rest, numbers, nodes⟩ = _
  rw [absent]
  rfl

theorem levelItems_item (depth : Nat) (item : Text) (rest : List Token) :
    levelItems references (depth + 2)
        ⟨.item :: .scalar (styleOf item) item :: rest, numbers, nodes⟩ =
      (levelItems references (depth + 1) ⟨rest, numbers, nodes⟩).bind fun found =>
        some (.scalar none (styleOf item) item :: found.1, found.2) :=
  rfl

theorem levelItems_end {rest : List Token} (ends : rest.head? ≠ some .item) (depth : Nat) :
    levelItems references (depth + 1) ⟨rest, numbers, nodes⟩ =
      some ([], ⟨rest, numbers, nodes⟩) := by
  cases rest with
  | nil => rfl
  | cons token later =>
      cases token with
      | item => exact absurd rfl ends
      | _ => rfl

theorem blockEntries_key (depth : Nat) (name : Text) (rest : List Token) :
    blockEntries references (depth + 2)
        ⟨.key :: .scalar .plain name :: .value :: rest, numbers, nodes⟩ =
      (unless? [.key, .value, .blockEnd] (node references (depth + 1) true true)
        ⟨rest, numbers, nodes⟩).bind fun found =>
          (blockEntries references (depth + 1) found.2).bind fun more =>
            some ((.scalar none .plain name, found.1) :: more.1, more.2) :=
  rfl

theorem levelItems_tokens (items : List Text) {depth : Nat} (enough : items.length < depth)
    {rest : List Token} (ends : rest.head? ≠ some .item) :
    levelItems references depth ⟨Value.itemTokens items ++ rest, numbers, nodes⟩ =
      some (items.map fun item => .scalar none (styleOf item) item, ⟨rest, numbers, nodes⟩) := by
  induction items generalizing depth with
  | nil =>
      obtain ⟨depth, rfl⟩ := Nat.exists_eq_succ_of_ne_zero (Nat.ne_zero_of_lt enough)
      exact levelItems_end references numbers nodes ends depth
  | cons item later ih =>
      obtain ⟨depth, rfl⟩ : ∃ more, depth = more + 2 := ⟨depth - 2, by simp at enough; omega⟩
      have composed : levelItems references (depth + 1)
          ⟨Value.itemTokens later ++ rest, numbers, nodes⟩ = _ := ih (by simpa using enough)
      have step := levelItems_item references numbers nodes depth item
        (Value.itemTokens later ++ rest)
      rw [composed] at step
      exact step

/-- No value begins with a mark that an entry may have behind a name. -/
theorem exists_head_tokens (value : Value) :
    ∃ token later, value.tokens = token :: later ∧ token ∉ [Token.key, .value, .blockEnd] := by
  cases value with
  | word content => exact ⟨_, _, rfl, by simp⟩
  | text content => exact ⟨_, _, rfl, by simp⟩
  | texts items =>
      cases items with
      | nil => exact ⟨_, _, rfl, by simp⟩
      | cons item later => exact ⟨_, _, rfl, by simp⟩
  | record fields => exact ⟨_, _, rfl, by simp⟩

theorem length_itemTokens (items : List Text) :
    (Value.itemTokens items).length = 2 * items.length := by
  induction items with
  | nil => rfl
  | cons item later ih =>
      rw [Value.itemTokens, List.flatMap_cons, List.length_append, ← Value.itemTokens, ih]
      simp
      omega

mutual

theorem node_tokens (value : Value) {depth : Nat} (enough : value.tokens.length < depth)
    {rest : List Token} (ends : rest.head? ≠ some .item) :
    node references depth true true ⟨value.tokens ++ rest, numbers, nodes⟩ =
      some (value.node, ⟨rest, numbers, nodes⟩) := by
  obtain ⟨depth, rfl⟩ := Nat.exists_eq_succ_of_ne_zero (Nat.ne_zero_of_lt enough)
  cases value with
  | word content => rfl
  | text content => rfl
  | texts items =>
      cases items with
      | nil =>
          obtain ⟨depth, rfl⟩ := Nat.exists_eq_succ_of_ne_zero
            (Nat.ne_zero_of_lt (Nat.lt_of_succ_lt_succ enough))
          rfl
      | cons item items =>
          have inside : (item :: items).length < depth := by
            have size := length_itemTokens (item :: items)
            simp only [Value.tokens, List.length_cons] at enough size ⊢
            omega
          have composed := levelItems_tokens references numbers nodes (item :: items) inside ends
          have split : Value.itemTokens (item :: items) ++ rest =
            .item :: (.scalar (styleOf item) item :: Value.itemTokens items ++ rest) := rfl
          have step := node_item references numbers nodes depth
            (.scalar (styleOf item) item :: Value.itemTokens items ++ rest)
          rw [← split, composed] at step
          exact step
  | record fields =>
      have inside : (Value.fieldTokens fields).length < depth := by
        simp [Value.tokens] at enough
        omega
      have composed := blockEntries_tokens fields inside rest
      have step := node_mapStart references numbers nodes depth true
        (Value.fieldTokens fields ++ .blockEnd :: rest)
      rw [composed] at step
      simpa [Value.tokens, Value.node] using step

theorem blockEntries_tokens (fields : List (Text × Value)) {depth : Nat}
    (enough : (Value.fieldTokens fields).length < depth) (rest : List Token) :
    blockEntries references depth
        ⟨Value.fieldTokens fields ++ .blockEnd :: rest, numbers, nodes⟩ =
      some (Value.entries fields, ⟨rest, numbers, nodes⟩) := by
  cases fields with
  | nil =>
      obtain ⟨depth, rfl⟩ := Nat.exists_eq_succ_of_ne_zero (Nat.ne_zero_of_lt enough)
      rfl
  | cons field later =>
      obtain ⟨name, value⟩ := field
      simp only [Value.fieldTokens, List.length_append, List.length_cons] at enough
      obtain ⟨depth, rfl⟩ : ∃ more, depth = more + 2 := ⟨depth - 2, by omega⟩
      obtain ⟨token, others, begins, goes⟩ := exists_head_tokens value
      have ends : (Value.fieldTokens later ++ .blockEnd :: rest).head? ≠ some .item := by
        cases later <;> simp [Value.fieldTokens]
      have first : node references (depth + 1) true true
          ⟨value.tokens ++ (Value.fieldTokens later ++ .blockEnd :: rest), numbers, nodes⟩ = _ :=
        node_tokens value (by omega) ends
      have more : blockEntries references (depth + 1)
          ⟨Value.fieldTokens later ++ .blockEnd :: rest, numbers, nodes⟩ = _ :=
        blockEntries_tokens later (by omega) rest
      have step := blockEntries_key references numbers nodes depth name
        (value.tokens ++ (Value.fieldTokens later ++ .blockEnd :: rest))
      have goesOn := unless?_token numbers nodes goes (node references (depth + 1) true true)
        (others ++ (Value.fieldTokens later ++ .blockEnd :: rest))
      rw [← List.cons_append, ← begins] at goesOn
      rw [goesOn, first, Option.bind_some, more] at step
      simpa [Value.fieldTokens, Value.entries] using step

end

theorem document_mapStart (rest : List Token) :
    document nodes ⟨.mapStart :: rest, [], []⟩ =
      (node ⟨knownHandles, nodes⟩ (2 * (rest.length + 1) + 2) true false
        ⟨.mapStart :: rest, [], []⟩).bind fun found => some (some found.1, found.2) :=
  rfl

end Composing

theorem countP_isAlias_itemTokens (items : List Text) :
    (Value.itemTokens items).countP isAlias = 0 := by
  rw [Value.itemTokens, List.countP_flatMap]
  simp [Function.comp_def, isAlias]

mutual

theorem countP_isAlias_tokens (value : Value) : value.tokens.countP isAlias = 0 := by
  cases value with
  | word content => rfl
  | text content => rfl
  | texts items =>
      cases items with
      | nil => rfl
      | cons item items => exact countP_isAlias_itemTokens (item :: items)
  | record fields =>
      simp [Value.tokens, countP_isAlias_fieldTokens fields, isAlias]

theorem countP_isAlias_fieldTokens (fields : List (Text × Value)) :
    (Value.fieldTokens fields).countP isAlias = 0 := by
  cases fields with
  | nil => rfl
  | cons field later =>
      simp [Value.fieldTokens, countP_isAlias_tokens field.2, countP_isAlias_fieldTokens later,
        isAlias]

end

theorem compose?_record (fields : List (Text × Value)) (known : List (Nat × Node)) :
    compose? known (Value.record fields).tokens = some (some (Value.record fields).node, []) := by
  let rest := Value.fieldTokens fields ++ [.blockEnd]
  have enough : (Value.fieldTokens fields).length < 2 * (rest.length + 1) + 1 := by
    simp [rest]
    omega
  have composed := Composing.blockEntries_tokens ⟨Composing.knownHandles, known⟩ [] [] fields
    enough []
  have step := Composing.node_mapStart ⟨Composing.knownHandles, known⟩ [] []
    (2 * (rest.length + 1) + 1) false rest
  have whole := Composing.document_mapStart known rest
  rw [composed] at step
  rw [step] at whole
  have run : (Composing.document known).run ⟨(Value.record fields).tokens, [], []⟩ = _ := whole
  simp [compose?, run, Value.node]

/-- The document of the lines of a record is its node. -/
theorem document?_fieldLines {fields : List (Text × Value)}
    (writable : Value.WritableFields fields) (inhabited : fields ≠ []) :
    document? (Value.fieldLines 0 fields) = some (some (Value.record fields).node) := by
  simp [document?, tokens?_fieldLines writable inhabited, countP_isAlias_tokens, composeTimes?,
    compose?_record]

end RepeatScan.Yaml
