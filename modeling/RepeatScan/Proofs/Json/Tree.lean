import RepeatScan.Proofs.Json.Layout

set_option autoImplicit false

/-! The tree of a written value. Main statement: a text that a value is written as has the tree of the
value, whichever of the written forms is taken. -/

namespace RepeatScan.Json

namespace Value

mutual

def node : Value → Node
  | null => .null
  | bool value => .bool value
  | number value => .number (.ofNat value)
  | string content => .string (some content)
  | array items => .array (itemNodes items) none
  | object members => .object (memberNodes members) none

def itemNodes : List Value → List Node
  | [] => []
  | item :: later => node item :: itemNodes later

def memberNodes : List (Text × Value) → List (Option Text × Node)
  | [] => []
  | (name, value) :: later => (some name, node value) :: memberNodes later

end

theorem itemNodes_eq_map (items : List Value) : itemNodes items = items.map node := by
  induction items with
  | nil => rfl
  | cons item later ih => rw [itemNodes, ih, List.map_cons]

/-- No value begins with the end of an array. -/
theorem exists_head_tokens (value : Value) :
    ∃ first later, value.tokens = first :: later ∧ first ≠ .closeArray := by
  cases value with
  | null => exact ⟨_, _, rfl, by decide⟩
  | bool value => exact ⟨_, _, rfl, fun same => by cases same⟩
  | number value => exact ⟨_, _, rfl, fun same => by cases same⟩
  | string content => exact ⟨_, _, rfl, fun same => by cases same⟩
  | array items => exact ⟨_, _, rfl, by decide⟩
  | object members => exact ⟨_, _, rfl, by decide⟩

end Value

namespace Progress

/-- Goes on with tokens, unless the tree is whole already. -/
def resume : Progress → List Token → Node × List Token
  | .going expected frames, later => build expected frames later
  | .done node, later => (node, later)

theorem build_cons (expected : Expectation) (frames : List Frame) (token : Token)
    (later : List Token) :
    build expected frames (token :: later) = resume (take frames token expected) later := by
  rw [build]
  cases take frames token expected with
  | going expected frames => rfl
  | done node => rfl

theorem build_valueOrEnd {token : Token} (other : token ≠ .closeArray) (frames : List Frame)
    (later : List Token) :
    build .valueOrEnd frames (token :: later) = build .value frames (token :: later) := by
  rw [build_cons, build_cons]
  simp [take, other]

variable (node : Node) (frames : List Frame) (later : List Token)

theorem resume_item_comma (earlier : List Node) :
    resume (settle node (.items earlier :: frames)) (.comma :: later) =
      build .value (.items (node :: earlier) :: frames) later := rfl

theorem resume_item_close (earlier : List Node) :
    resume (settle node (.items earlier :: frames)) (.closeArray :: later) =
      resume (settle (.array (node :: earlier).reverse none) frames) later := by
  rw [settle, resume, build_cons]
  rfl

theorem build_member (earlier : List (Option Text × Node)) (name : Text) :
    build .key (.members earlier :: frames) (.string (some name) :: .colon :: later) =
      build .value (.member earlier (some name) :: frames) later := rfl

theorem resume_member_comma (earlier : List (Option Text × Node)) (key : Option Text) :
    resume (settle node (.member earlier key :: frames)) (.comma :: later) =
      build .key (.members ((key, node) :: earlier) :: frames) later := rfl

theorem resume_member_close (earlier : List (Option Text × Node)) (key : Option Text) :
    resume (settle node (.member earlier key :: frames)) (.closeObject :: later) =
      resume (settle (.object ((key, node) :: earlier).reverse none) frames) later := by
  rw [settle, resume, build_cons]
  rfl

mutual

/-- The tokens of a value settle its node among the values that are open around it. -/
theorem build_tokens : ∀ (value : Value) (frames : List Frame) (later : List Token),
    build .value frames (value.tokens ++ later) = resume (settle value.node frames) later
  | .null, _, _ => build_cons _ _ _ _
  | .bool _, _, _ => build_cons _ _ _ _
  | .number _, _, _ => build_cons _ _ _ _
  | .string _, _, _ => build_cons _ _ _ _
  | .array [], frames, later => by
      simp [Value.tokens, Value.itemTokens, build_cons, take, takeValue, resume, Value.node,
        Value.itemNodes]
  | .array (item :: others), frames, later => by
      have opened : build .value frames
          ((Value.array (item :: others)).tokens ++ later) =
            build .valueOrEnd (.items [] :: frames)
              ([.comma].intercalate (Value.itemTokens (item :: others)) ++ .closeArray :: later) := by
        simp [Value.tokens, build_cons, take, takeValue, resume]
      obtain ⟨first, behind, starts, other⟩ := item.exists_head_tokens
      have head : ∃ more, [Token.comma].intercalate (Value.itemTokens (item :: others)) =
          first :: more := by
        cases others with
        | nil => exact ⟨behind, by simp [Value.itemTokens, starts]⟩
        | cons next last =>
            rw [Value.itemTokens, Value.itemTokens, List.intercalate_cons_cons, starts]
            exact ⟨_, rfl⟩
      obtain ⟨more, begins⟩ := head
      have inside := build_items (item :: others) (List.cons_ne_nil item others) [] frames later
      rw [opened, begins, List.cons_append, build_valueOrEnd other, ← List.cons_append, ← begins,
        inside]
      rfl
  | .object [], frames, later => by
      simp [Value.tokens, Value.memberTokens, build_cons, take, takeValue, resume, Value.node,
        Value.memberNodes]
  | .object ((name, value) :: others), frames, later => by
      have opened : build .value frames
          ((Value.object ((name, value) :: others)).tokens ++ later) =
            build .keyOrEnd (.members [] :: frames)
              ([.comma].intercalate (Value.memberTokens ((name, value) :: others)) ++
                .closeObject :: later) := by
        simp [Value.tokens, build_cons, take, takeValue, resume]
      have head : ∃ more, [Token.comma].intercalate (Value.memberTokens ((name, value) :: others)) =
          .string (some name) :: more := by
        cases others with
        | nil => exact ⟨_, by rw [Value.memberTokens]; simp [Value.memberTokens]; rfl⟩
        | cons next last =>
            obtain ⟨key, inner⟩ := next
            rw [Value.memberTokens, Value.memberTokens, List.intercalate_cons_cons]
            exact ⟨_, rfl⟩
      obtain ⟨more, begins⟩ := head
      have inside := build_members ((name, value) :: others) (List.cons_ne_nil _ others) [] frames
        later
      rw [opened, begins, List.cons_append, build_cons]
      rw [begins, List.cons_append, build_cons] at inside
      exact inside

theorem build_items : ∀ (items : List Value), items ≠ [] → ∀ (earlier : List Node)
    (frames : List Frame) (later : List Token),
    build .value (.items earlier :: frames)
        ([.comma].intercalate (Value.itemTokens items) ++ .closeArray :: later) =
      resume (settle (.array (earlier.reverse ++ Value.itemNodes items) none) frames) later
  | [], inhabited, _, _, _ => absurd rfl inhabited
  | [item], _, earlier, frames, later => by
      simp only [Value.itemTokens, List.intercalate_singleton]
      rw [build_tokens item, resume_item_close]
      simp [Value.itemNodes]
  | item :: next :: others, _, earlier, frames, later => by
      have rest := build_items (next :: others) (List.cons_ne_nil next others)
        (item.node :: earlier) frames later
      have split : [Token.comma].intercalate (Value.itemTokens (item :: next :: others)) =
          item.tokens ++ .comma :: [.comma].intercalate (Value.itemTokens (next :: others)) := by
        simp [Value.itemTokens, List.intercalate_cons_cons]
      rw [split, List.append_assoc, build_tokens item, List.cons_append, resume_item_comma, rest]
      simp [Value.itemNodes]

theorem build_members : ∀ (members : List (Text × Value)), members ≠ [] →
    ∀ (earlier : List (Option Text × Node)) (frames : List Frame) (later : List Token),
    build .key (.members earlier :: frames)
        ([.comma].intercalate (Value.memberTokens members) ++ .closeObject :: later) =
      resume (settle (.object (earlier.reverse ++ Value.memberNodes members) none) frames) later
  | [], inhabited, _, _, _ => absurd rfl inhabited
  | [(name, value)], _, earlier, frames, later => by
      simp only [Value.memberTokens, List.intercalate_singleton, List.cons_append, List.nil_append]
      rw [build_member, build_tokens value, resume_member_close]
      simp [Value.memberNodes]
  | (name, value) :: (key, inner) :: others, _, earlier, frames, later => by
      have rest := build_members ((key, inner) :: others) (List.cons_ne_nil _ others)
        ((some name, value.node) :: earlier) frames later
      have split : [Token.comma].intercalate
          (Value.memberTokens ((name, value) :: (key, inner) :: others)) =
            .string (some name) :: .colon :: (value.tokens ++
              .comma :: [.comma].intercalate (Value.memberTokens ((key, inner) :: others))) := by
        simp [Value.memberTokens, List.intercalate_cons_cons]
      rw [split, List.cons_append, List.cons_append, List.append_assoc, build_member,
        build_tokens value, List.cons_append, resume_member_comma, rest]
      simp [Value.memberNodes]

end

end Progress

/-- In each form a value is read as its tree, with nothing left behind it but blanks. -/
theorem Node.ofText_write (layout : Layout) (value : Value) {blanks : Text}
    (blank : ∀ character ∈ blanks, isBlank character = true) :
    Node.ofText (layout.write 0 value ++ blanks) = (value.node, []) := by
  have built := Progress.build_tokens value [] []
  rw [List.append_nil] at built
  unfold Node.ofText
  rw [tokens_write value blank, built]
  rfl

theorem Node.ofText_compact (value : Value) : Node.ofText value.compact = (value.node, []) := by
  have read : Node.ofText (Layout.dense.write 0 value ++ []) = (value.node, []) :=
    Node.ofText_write .dense value (by simp)
  rwa [List.append_nil, Layout.write_dense] at read

theorem Node.ofText_pretty (value : Value) {blanks : Text}
    (blank : ∀ character ∈ blanks, isBlank character = true) :
    Node.ofText (value.pretty ++ blanks) = (value.node, []) := by
  have read := Node.ofText_write .spread value blank
  rwa [Layout.write_spread] at read

end RepeatScan.Json
