import Mathlib.Data.List.Forall2
import RepeatScan.Proofs.Json.Literal
import RepeatScan.Proofs.Text.Digits

set_option autoImplicit false

/-! The tokens of a written value. Both written forms are cases of one: blanks may stand before each part
of an array or an object, before its closing bracket, and behind each colon. Main statement: whatever
the blanks are, the tokens of the text are those of the value. -/

namespace RepeatScan.Json

/-! ### The tokens of a value -/

/-- The number that is written with the digits of a natural number. -/
def Numeral.ofNat (number : Nat) : Numeral :=
  ⟨false, Text.decimal number, none, none⟩

namespace Value

mutual

def tokens : Value → List Token
  | null => [.null]
  | bool value => [.bool value]
  | number value => [.number (.ofNat value)]
  | string content => [.string (some content)]
  | array items => [.openArray] ++ [.comma].intercalate (itemTokens items) ++ [.closeArray]
  | object members => [.openObject] ++ [.comma].intercalate (memberTokens members) ++ [.closeObject]

def itemTokens : List Value → List (List Token)
  | [] => []
  | item :: later => tokens item :: itemTokens later

def memberTokens : List (Text × Value) → List (List Token)
  | [] => []
  | (name, value) :: later =>
      ([.string (some name), .colon] ++ tokens value) :: memberTokens later

end

end Value

/-! ### Forms of a value -/

/-- The blanks of a written form: before parts and closing brackets at each depth, and behind colons. -/
structure Layout where
  line : Nat → Text
  gap : Text
  line_blank : ∀ depth, ∀ character ∈ line depth, isBlank character = true
  gap_blank : ∀ character ∈ gap, isBlank character = true

namespace Layout

def dense : Layout where
  line _ := []
  gap := []
  line_blank := by simp
  gap_blank := by simp

/-- One part in each line, two blanks deeper than what holds it. -/
def spread : Layout where
  line := Value.newLine
  gap := [' ']
  line_blank := by
    intro depth character member
    rcases List.mem_cons.mp member with rfl | inMargin
    · rfl
    · rw [List.eq_of_mem_replicate inMargin]
      rfl
  gap_blank := by simp [isBlank]

/-- Parts between two brackets; the brackets stand together when there are none. -/
def enclose (layout : Layout) (opening closing : Char) (depth : Nat) (parts : List Text) : Text :=
  if parts.isEmpty then [opening, closing]
  else [opening] ++ layout.line (depth + 1) ++ (',' :: layout.line (depth + 1)).intercalate parts ++
    layout.line depth ++ [closing]

mutual

def write (layout : Layout) (depth : Nat) : Value → Text
  | .null => "null".toList
  | .bool value => boolWord value
  | .number value => Text.decimal value
  | .string content => quote content
  | .array items => layout.enclose '[' ']' depth (layout.writeItems (depth + 1) items)
  | .object members => layout.enclose '{' '}' depth (layout.writeMembers (depth + 1) members)

def writeItems (layout : Layout) (depth : Nat) : List Value → List Text
  | [] => []
  | item :: later => layout.write depth item :: layout.writeItems depth later

def writeMembers (layout : Layout) (depth : Nat) : List (Text × Value) → List Text
  | [] => []
  | (name, value) :: later =>
      (quote name ++ [':'] ++ layout.gap ++ layout.write depth value) ::
        layout.writeMembers depth later

end

theorem enclose_dense (opening closing : Char) (depth : Nat) (parts : List Text) :
    dense.enclose opening closing depth parts =
      [opening] ++ [','].intercalate parts ++ [closing] := by
  cases parts with
  | nil => rfl
  | cons part later => simp [enclose, dense]

mutual

theorem write_dense (depth : Nat) : ∀ value : Value, dense.write depth value = value.compact
  | .null => rfl
  | .bool _ => rfl
  | .number _ => rfl
  | .string _ => rfl
  | .array items => by
      rw [write, Value.compact, enclose_dense, writeItems_dense (depth + 1) items]
  | .object members => by
      rw [write, Value.compact, enclose_dense, writeMembers_dense (depth + 1) members]

theorem writeItems_dense (depth : Nat) :
    ∀ items : List Value, dense.writeItems depth items = Value.compactItems items
  | [] => rfl
  | item :: later => by
      rw [writeItems, Value.compactItems, write_dense depth item, writeItems_dense depth later]

theorem writeMembers_dense (depth : Nat) :
    ∀ members : List (Text × Value), dense.writeMembers depth members = Value.compactMembers members
  | [] => rfl
  | (name, value) :: later => by
      rw [writeMembers, Value.compactMembers, write_dense depth value,
        writeMembers_dense depth later]
      simp [dense]

end

mutual

theorem write_spread (depth : Nat) : ∀ value : Value, spread.write depth value = value.prettyAt depth
  | .null => rfl
  | .bool _ => rfl
  | .number _ => rfl
  | .string _ => rfl
  | .array items => by
      rw [write, Value.prettyAt, writeItems_spread (depth + 1) items]
      rfl
  | .object members => by
      rw [write, Value.prettyAt, writeMembers_spread (depth + 1) members]
      rfl

theorem writeItems_spread (depth : Nat) :
    ∀ items : List Value, spread.writeItems depth items = Value.prettyItems depth items
  | [] => rfl
  | item :: later => by
      rw [writeItems, Value.prettyItems, write_spread depth item, writeItems_spread depth later]

theorem writeMembers_spread (depth : Nat) :
    ∀ members : List (Text × Value),
      spread.writeMembers depth members = Value.prettyMembers depth members
  | [] => rfl
  | (name, value) :: later => by
      rw [writeMembers, Value.prettyMembers, write_spread depth value,
        writeMembers_spread depth later]
      simp [spread]

end

end Layout

/-! ### Reading the parts of a text -/

/-- A text that does not go on with a number right before it. -/
def EndsNumber (text : Text) : Prop :=
  ∀ character ∈ text.head?,
    character.isDigit = false ∧ character ≠ '.' ∧ character ≠ 'e' ∧ character ≠ 'E'

theorem endsNumber_nil : EndsNumber [] := by
  simp [EndsNumber]

theorem endsNumber_of_mark {character : Char} (mark : character ∈ [',', ':', ']', '}'])
    (rest : Text) : EndsNumber (character :: rest) := by
  intro first isFirst
  obtain rfl : character = first := by simpa using isFirst
  simp only [List.mem_cons, List.not_mem_nil, or_false] at mark
  rcases mark with rfl | rfl | rfl | rfl <;> decide

theorem endsNumber_of_blanks {blanks : Text}
    (blank : ∀ character ∈ blanks, isBlank character = true) {rest : Text} (ends : EndsNumber rest) :
    EndsNumber (blanks ++ rest) := by
  cases blanks with
  | nil => exact ends
  | cons character later =>
      intro first isFirst
      obtain rfl : character = first := by simpa using isFirst
      have kind := blank character List.mem_cons_self
      simp only [isBlank, Bool.or_eq_true, decide_eq_true_eq] at kind
      rcases kind with ((rfl | rfl) | rfl) | rfl
      all_goals decide

/-- A text that is read as some tokens, whatever was read before, when no number goes on behind it. -/
def Reads (text : Text) (tokens : List Token) : Prop :=
  ∀ earlier rest, EndsNumber rest →
    tokensFrom .between earlier (text ++ rest) = tokensFrom .between (tokens.reverse ++ earlier) rest

theorem tokensFrom_blanks {blanks : Text}
    (blank : ∀ character ∈ blanks, isBlank character = true) (earlier : List Token) (rest : Text) :
    tokensFrom .between earlier (blanks ++ rest) = tokensFrom .between earlier rest := by
  induction blanks with
  | nil => rfl
  | cons character later ih =>
      have first := blank character List.mem_cons_self
      have passed : tokensFrom .between earlier (character :: (later ++ rest)) =
          tokensFrom .between earlier (later ++ rest) := by
        simp [tokensFrom, advance, begin, first]
      rw [List.cons_append, passed]
      exact ih fun other listed => blank other (List.mem_cons_of_mem character listed)

theorem tokensFrom_quote (content : Text) (earlier : List Token) (rest : Text) :
    tokensFrom .between earlier (quote content ++ rest) =
      tokensFrom .between (.string (some content) :: earlier) rest := by
  have opened : tokensFrom .between earlier (quote content ++ rest) =
      tokensFrom (.string ⟨[], none, true⟩) earlier (content.flatMap escape ++ '"' :: rest) := by
    rw [quote, List.append_assoc, List.append_assoc]
    rfl
  rw [opened, (body_flatMap_escape content).read]
  simp [tokensFrom, advance, OpenString.token]

/-- Behind a first digit other than zero further digits go on with the number. -/
theorem tokensFrom_digits {digits : Text} (digit : ∀ character ∈ digits, character.isDigit = true)
    {before : Text} (open_ : digits ≠ [] → before ≠ ['0']) (inhabited : before ≠ [])
    (earlier : List Token) (rest : Text) :
    tokensFrom (.whole false before) earlier (digits ++ rest) =
      tokensFrom (.whole false (digits.reverse ++ before)) earlier rest := by
  induction digits generalizing before with
  | nil => rfl
  | cons character later ih =>
      have first := digit character List.mem_cons_self
      have other := open_ (List.cons_ne_nil character later)
      have next : tokensFrom (.whole false before) earlier (character :: (later ++ rest)) =
          tokensFrom (.whole false (character :: before)) earlier (later ++ rest) := by
        simp [tokensFrom, advance, first, other]
      rw [List.cons_append, next, ih (fun sign listed => digit sign (List.mem_cons_of_mem _ listed))
        (fun _ => by simp [inhabited]) (List.cons_ne_nil character before)]
      simp

theorem tokensFrom_whole {digits : Text} {rest : Text} (ends : EndsNumber rest)
    (earlier : List Token) :
    tokensFrom (.whole false digits) earlier rest =
      tokensFrom .between (.number ⟨false, digits.reverse, none, none⟩ :: earlier) rest := by
  cases rest with
  | nil => rfl
  | cons character later =>
      obtain ⟨noDigit, noPoint, noMark, noCapital⟩ := ends character rfl
      simp [tokensFrom, advance, afterNumber, noDigit, noPoint, noMark, noCapital]

theorem begin_digit {character : Char} (digit : character.isDigit = true) (earlier : List Token) :
    begin earlier character = (.whole false [character], earlier) := by
  have other : ∀ sign ∈ [' ', '\n', '\t', '\r', '[', ']', '{', '}', ':', ',', '"', '-'],
      character ≠ sign := by
    rintro sign member rfl
    have none : [' ', '\n', '\t', '\r', '[', ']', '{', '}', ':', ',', '"', '-'].all
        (!Char.isDigit ·) = true := by decide
    have refused := List.all_eq_true.mp none character member
    rw [digit] at refused
    cases refused
  simp only [List.forall_mem_cons] at other
  simp [begin, isBlank, other, digit]

theorem reads_decimal (number : Nat) : Reads (Text.decimal number) [.number (.ofNat number)] := by
  intro earlier rest ends
  obtain ⟨first, later, digits⟩ := List.exists_cons_of_ne_nil (Text.decimal_ne_nil number)
  have digit : ∀ character ∈ first :: later, character.isDigit = true := by
    rw [← digits]
    exact fun character => Text.isDigit_of_mem_decimal
  have open_ : later ≠ [] → [first] ≠ ['0'] := by
    intro more zero
    obtain rfl : first = '0' := by simpa using zero
    have positive : 0 < number := by
      by_contra none
      obtain rfl : number = 0 := by omega
      exact more (List.cons.inj digits).2.symm
    exact Text.head?_decimal positive (by rw [digits]; rfl)
  have begun : tokensFrom .between earlier (Text.decimal number ++ rest) =
      tokensFrom (.whole false [first]) earlier (later ++ rest) := by
    rw [digits]
    simp [tokensFrom, advance, begin_digit (digit first List.mem_cons_self)]
  rw [begun, tokensFrom_digits (fun character listed => digit character (List.mem_cons_of_mem _ listed))
    open_ (List.cons_ne_nil first []), tokensFrom_whole ends]
  simp [Numeral.ofNat, digits]

/-! ### Reading whole values -/

theorem reads_intercalate {line : Text} (blank : ∀ character ∈ line, isBlank character = true)
    {parts : List Text} {tokens : List (List Token)} (each : List.Forall₂ Reads parts tokens) :
    Reads ((',' :: line).intercalate parts) ([.comma].intercalate tokens) := by
  induction each with
  | nil => exact fun _ _ _ => rfl
  | @cons part token parts tokens first others ih =>
      cases others with
      | nil => simpa using first
      | cons next more =>
          intro earlier rest ends
          have comma : ∀ later, EndsNumber (',' :: later) := endsNumber_of_mark (by decide)
          rw [List.intercalate_cons_cons, List.append_assoc, List.append_assoc,
            List.cons_append, first _ _ (comma _)]
          have passed : ∀ later, tokensFrom .between (token.reverse ++ earlier) (',' :: later) =
              tokensFrom .between (.comma :: (token.reverse ++ earlier)) later := fun _ => rfl
          rw [passed, tokensFrom_blanks blank, ih _ _ ends, List.intercalate_cons_cons]
          simp

variable {layout : Layout}

theorem reads_enclose {opening closing : Char} {opens closes : Token}
    (opened : ∀ earlier, begin earlier opening = (.between, opens :: earlier))
    (closed : ∀ earlier, begin earlier closing = (.between, closes :: earlier))
    (mark : closing ∈ [',', ':', ']', '}']) (depth : Nat) {parts : List Text}
    {tokens : List (List Token)} (each : List.Forall₂ Reads parts tokens) :
    Reads (layout.enclose opening closing depth parts)
      ([opens] ++ [.comma].intercalate tokens ++ [closes]) := by
  intro earlier rest _
  have open_ : ∀ text, tokensFrom .between earlier (opening :: text) =
      tokensFrom .between (opens :: earlier) text := by
    simp [tokensFrom, advance, opened]
  have close : ∀ before, tokensFrom .between before (closing :: rest) =
      tokensFrom .between (closes :: before) rest := by
    simp [tokensFrom, advance, closed]
  unfold Layout.enclose
  cases each with
  | nil => simp [open_, close]
  | cons first others =>
      have ends := endsNumber_of_blanks (layout.line_blank depth) (endsNumber_of_mark mark rest)
      have inside := reads_intercalate (layout.line_blank (depth + 1)) (.cons first others)
        (opens :: earlier) _ ends
      simp only [List.isEmpty_cons, Bool.false_eq_true, if_false, List.append_assoc,
        List.singleton_append]
      rw [List.cons_append, open_, tokensFrom_blanks (layout.line_blank (depth + 1)), inside,
        tokensFrom_blanks (layout.line_blank depth), close]
      simp

mutual

theorem reads_write (depth : Nat) : ∀ value : Value, Reads (layout.write depth value) value.tokens
  | .null => fun _ _ _ => rfl
  | .bool true => fun _ _ _ => rfl
  | .bool false => fun _ _ _ => rfl
  | .number value => reads_decimal value
  | .string content => fun earlier rest _ => tokensFrom_quote content earlier rest
  | .array items =>
      reads_enclose (fun _ => rfl) (fun _ => rfl) (by decide) depth (reads_writeItems _ items)
  | .object members =>
      reads_enclose (fun _ => rfl) (fun _ => rfl) (by decide) depth (reads_writeMembers _ members)

theorem reads_writeItems (depth : Nat) : ∀ items : List Value,
    List.Forall₂ Reads (layout.writeItems depth items) (Value.itemTokens items)
  | [] => .nil
  | item :: later => .cons (reads_write depth item) (reads_writeItems depth later)

theorem reads_writeMembers (depth : Nat) : ∀ members : List (Text × Value),
    List.Forall₂ Reads (layout.writeMembers depth members) (Value.memberTokens members)
  | [] => .nil
  | (name, value) :: later => by
      refine .cons ?_ (reads_writeMembers depth later)
      intro earlier rest ends
      have colon : ∀ before text, tokensFrom .between before (':' :: text) =
          tokensFrom .between (.colon :: before) text := fun _ _ => rfl
      simp only [List.append_assoc, List.singleton_append]
      rw [tokensFrom_quote, List.cons_append, colon, tokensFrom_blanks layout.gap_blank,
        reads_write depth value _ _ ends]
      simp

end

/-- A value is read as its tokens, and blanks may follow it. -/
theorem tokens_write (value : Value) {blanks : Text}
    (blank : ∀ character ∈ blanks, isBlank character = true) :
    tokens (layout.write 0 value ++ blanks) = value.tokens := by
  have ends := endsNumber_of_blanks blank endsNumber_nil
  rw [List.append_nil] at ends
  have behind := tokensFrom_blanks blank (value.tokens.reverse ++ []) []
  unfold tokens
  rw [reads_write 0 value [] blanks ends]
  simpa [tokensFrom, finish] using behind

end RepeatScan.Json
