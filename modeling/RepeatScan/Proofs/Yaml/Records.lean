import RepeatScan.Proofs.Retrieval
import RepeatScan.Proofs.Text.Digits
import RepeatScan.Proofs.Yaml.Nodes
import RepeatScan.Yaml.Settings

set_option autoImplicit false

/-! Values and records whose fields may be left out, read back from their nodes. Main statement: a
record is read from the fields that are given for it. -/

namespace RepeatScan.Yaml

/-! ### Numbers -/

theorem dropSign_of_isDigit {digit : Char} (isDigit : digit.isDigit = true) (later : Text) :
    Text.dropSign (digit :: later) = digit :: later := by
  unfold Text.dropSign
  split
  · rename_i same
    obtain ⟨rfl, -⟩ := List.cons.inj same
    cases isDigit
  · rename_i same
    obtain ⟨rfl, -⟩ := List.cons.inj same
    cases isDigit
  · rfl

theorem dropPlus_of_isDigit {digit : Char} (isDigit : digit.isDigit = true) (later : Text) :
    Text.dropPlus (digit :: later) = digit :: later := by
  unfold Text.dropPlus
  split
  · rename_i same
    obtain ⟨rfl, -⟩ := List.cons.inj same
    cases isDigit
  · rfl

/-- Digits that do not begin with a zero have no mark of a base and are not padded. -/
theorem baseNumber?_of_isDigit {digit : Char} (isDigit : digit.isDigit = true)
    (noZero : digit ≠ '0') (later : Text) :
    baseNumber? (digit :: later) = Text.inBase? 10 (digit :: later) := by
  have unpadded : isPadded (digit :: later) = false := by
    rw [isPadded, dropSign_of_isDigit isDigit]
    split <;> simp_all
  unfold baseNumber?
  split <;> simp_all

theorem natural?_decimal (number : Nat) : natural? (Text.decimal number) = some number := by
  by_cases zero : number = 0
  · subst zero
    rfl
  · have first := Text.head?_decimal (Nat.pos_of_ne_zero zero)
    obtain ⟨digit, later, split, isDigit⟩ := Text.exists_head_decimal number
    have noZero : digit ≠ '0' := by simpa [split] using first
    rw [natural?, split, dropPlus_of_isDigit isDigit, baseNumber?_of_isDigit isDigit noZero,
      ← split, Text.inBase?_decimal]

theorem isNullWord_decimal (number : Nat) : isNullWord (Text.decimal number) = false := by
  obtain ⟨digit, later, split, isDigit⟩ := Text.exists_head_decimal number
  rw [split, isNullWord, Bool.eq_false_iff, ne_eq, List.contains_iff_mem]
  intro listed
  simp only [List.mem_cons, List.not_mem_nil, or_false] at listed
  rcases listed with same | same | same | same
  all_goals
    obtain ⟨rfl, -⟩ := List.cons.inj same
    cases isDigit

theorem plain_decimal (number : Nat) : Plain (Text.decimal number) := by
  refine plain_of_word (Text.decimal_ne_nil number) fun digit listed => ?_
  simp [isWordSign, Char.isAlphanum, Text.isDigit_of_mem_decimal listed]

/-! ### Values -/

namespace Value

variable {α : Type}

/-- Whether a value is read as something that is there. -/
def ReadAs (value : Value) (read : Node → Option α) (given : α) : Prop :=
  value.node.readOption read = some (some given)

theorem readAs_ofNat {limit number : Nat} (small : number < limit) :
    (ofNat number).ReadAs (Node.readNat limit) number := by
  have inhabited := Text.decimal_ne_nil number
  simp [ReadAs, ofNat, node, Node.readOption, inhabited, isNullWord_decimal, Node.readNat,
    Node.word?, natural?_decimal, small]

theorem readAs_ofBool (value : Bool) : (ofBool value).ReadAs Node.readBool value := by
  cases value <;> rfl

/-- Only a text that is written with quotes or as a block can be a word for nothing. -/
theorem readAs_text (content : Text) : (text content).ReadAs Node.readText content := by
  have styled := styled_styleOf content
  rw [ReadAs, node]
  generalize styleOf content = style at styled ⊢
  cases styled with
  | plain unambiguous plain =>
      simp only [isAmbiguous, Bool.or_eq_false_iff] at unambiguous
      simp [Node.readOption, unambiguous, Node.readText]
  | singleQuoted _ => rfl
  | doubleQuoted => rfl
  | literal _ _ => rfl

theorem readAs_texts (items : List Text) :
    (texts items).ReadAs (Node.readList Node.readText) items := by
  have read : (items.map fun item => Node.scalar none (styleOf item) item).mapM Node.readText =
      pure items := mapM_map_eq_pure fun _ _ => rfl
  simp [ReadAs, node, Node.readOption, Node.readList, read]

end Value

/-! ### Records -/

/-- Fields that are given for some of the fields of a record, in their order; reading them leads from
one record to another. -/
inductive Fills {α : Type} : List (Field α) → List (Text × Value) → α → α → Prop
  | nil {record : α} : Fills [] [] record record
  | given {field : Field α} {value : Value} {fields : List (Field α)} {later : List (Text × Value)}
      {record last : α} (next : α) (read : field.read value.node record = some next)
      (rest : Fills fields later next last) :
      Fills (field :: fields) ((field.name, value) :: later) record last
  | absent {field : Field α} {fields : List (Field α)} {later : List (Text × Value)}
      {record last : α} (rest : Fills fields later record last) :
      Fills (field :: fields) later record last

section

variable {α β : Type} {name : String} {read : Node → Option β} {set : α → Option β → α}
  {write : β → Value} {fields : List (Field α)} {later : List (Text × Value)} {record last : α}

theorem Fills.givenField {value : Option β}
    (reads : ∀ given ∈ value, (write given).ReadAs read given)
    (keeps : set record none = record) (rest : Fills fields later (set record value) last) :
    Fills (optionalField name read set :: fields) (givenField name write value ++ later) record
      last := by
  cases value with
  | none =>
      rw [keeps] at rest
      exact .absent rest
  | some given =>
      refine .given (set record (some given)) ?_ rest
      have same : (write given).node.readOption read = some (some given) := reads given rfl
      simp [optionalField, same]

theorem Node.readEntries_cons (fields : List (Field α)) (name : Text) (node : Node)
    (later : List (Node × Node)) (known : List Text) (record : α) :
    Node.readEntries fields ((.scalar none .plain name, node) :: later) known record =
      (fields.find? fun field => field.name = name).bind fun field =>
        if name ∈ known then none
        else (field.read node record).bind fun next =>
          Node.readEntries fields later (name :: known) next :=
  rfl

/-- Given fields that were not read before are read one after the other. -/
theorem Node.readEntries_of_fills {all : List (Field α)} (distinct : (all.map (·.name)).Nodup)
    (fills : Fills fields later record last) {known : List Text} (listed : fields.Sublist all)
    (fresh : ∀ field ∈ fields, field.name ∉ known) :
    Node.readEntries all (Value.entries later) known record = some last := by
  induction fills generalizing known with
  | nil => rfl
  | @given field value fields later record last next read rest ih =>
      have found : all.find? (fun other => other.name = field.name) = some field :=
        find?_key distinct (listed.subset List.mem_cons_self)
      have apart := distinct.sublist (listed.map (·.name))
      rw [List.map_cons, List.nodup_cons] at apart
      have unread := fresh field List.mem_cons_self
      have others : ∀ other ∈ fields, other.name ∉ field.name :: known := by
        intro other member named
        rcases List.mem_cons.mp named with same | before
        · exact apart.1 (List.mem_map.mpr ⟨other, member, same⟩)
        · exact fresh other (List.mem_cons_of_mem field member) before
      have more := ih ((List.sublist_cons_self field fields).trans listed) others
      simp [Value.entries, readEntries_cons, found, unread, read, more]
  | @absent field fields later record last rest ih =>
      exact ih ((List.sublist_cons_self field fields).trans listed) fun other member =>
        fresh other (List.mem_cons_of_mem field member)

theorem Node.readRecord_record (distinct : (fields.map (·.name)).Nodup)
    (fills : Fills fields later record last) :
    (Value.record later).node.readRecord fields record = some last :=
  readEntries_of_fills distinct fills (List.Sublist.refl _) (by simp)

end

/-! ### Given fields -/

theorem givenField_eq_nil {α : Type} {name : String} {write : α → Value} {value : Option α} :
    givenField name write value = [] ↔ value = none := by
  cases value <;> simp [givenField]

/-- A name that can be written: of letters, digits and underscores, and not too long. -/
def isWritableName (name : String) : Bool :=
  !name.toList.isEmpty && name.toList.all isWordSign && name.toList.length ≤ Scan.keyLimit

theorem writableFields_givenField {α : Type} {name : String} {write : α → Value} {value : Option α}
    {later : List (Text × Value)} (named : isWritableName name = true)
    (writes : ∀ given ∈ value, (write given).Writable) (rest : Value.WritableFields later) :
    Value.WritableFields (givenField name write value ++ later) := by
  simp only [isWritableName, Bool.and_eq_true, decide_eq_true_eq] at named
  obtain ⟨⟨inhabited, word⟩, short⟩ := named
  cases value with
  | none => exact rest
  | some given =>
      exact .cons (plain_of_word (by simpa using inhabited) (List.all_eq_true.mp word)) short
        (writes given rfl) rest

theorem writable_ofNat (number : Nat) : (ofNat number).Writable :=
  .word (plain_decimal number)

theorem writable_ofBool (value : Bool) : (ofBool value).Writable := by
  cases value with
  | true => exact .word (plain_of_word (by simp) (by simp [isWordSign]))
  | false => exact .word (plain_of_word (by simp) (by simp [isWordSign]))

end RepeatScan.Yaml
