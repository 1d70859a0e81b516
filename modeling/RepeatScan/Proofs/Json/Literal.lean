import RepeatScan.Json.Decode
import RepeatScan.Json.Value

set_option autoImplicit false

/-! Strings as literals. A character may stand in a string as it is, behind a backslash, or by its code
point; whichever of these forms is taken, the string is read back. Main statement: a literal whose forms
are those of a text is read as the text. -/

namespace RepeatScan.Json

/-- The forms in which a character may stand inside a string. -/
inductive Form : Char → Text → Prop
  | plain {character : Char} (noQuote : character ≠ '"') (noBackslash : character ≠ '\\')
      (shown : 0x20 ≤ character.toNat) : Form character [character]
  | short {character : Char} (letter : Char) (meant : shortEscape? letter = some character) :
      Form character ['\\', letter]
  | unit {character : Char} (small : character.toNat < 0xD800) :
      Form character ('\\' :: 'u' :: Text.hexDigits 4 character.toNat)

/-- The inside of a literal: the characters of a text in their order, each in one of its forms. -/
inductive Body : Text → Text → Prop
  | nil : Body [] []
  | cons {character : Char} {form text body : Text} (first : Form character form)
      (later : Body text body) : Body (character :: text) (form ++ body)

theorem form_escape (character : Char) : Form character (escape character) := by
  unfold escape
  by_cases quote : character = '"'
  · subst quote
    exact Form.short _ rfl
  by_cases backslash : character = '\\'
  · subst backslash
    exact Form.short _ rfl
  by_cases newline : character = '\n'
  · subst newline
    exact Form.short _ rfl
  by_cases ret : character = '\r'
  · subst ret
    exact Form.short _ rfl
  by_cases tab : character = '\t'
  · subst tab
    exact Form.short _ rfl
  by_cases back : character.toNat = 0x08
  · obtain rfl : character = '\x08' := Char.toNat_inj.mp back
    exact Form.short _ rfl
  by_cases feed : character.toNat = 0x0C
  · obtain rfl : character = '\x0c' := Char.toNat_inj.mp feed
    exact Form.short _ rfl
  rw [if_neg quote, if_neg backslash, if_neg newline, if_neg ret, if_neg tab, if_neg back,
    if_neg feed]
  by_cases control : character.toNat < 0x20
  · rw [if_pos control]
    exact Form.unit (by omega)
  · rw [if_neg control]
    exact Form.plain quote backslash (by omega)

theorem body_flatMap_escape (text : Text) : Body text (text.flatMap escape) := by
  induction text with
  | nil => exact Body.nil
  | cons character rest ih => exact Body.cons (form_escape character) ih

/-! ### No form breaks a line -/

theorem shown_hexDigits {places number : Nat} {character : Char}
    (member : character ∈ Text.hexDigits places number) :
    0x20 ≤ character.toNat ∧ character ≠ '"' ∧ character ≠ '\\' := by
  have all : ∀ value < 16, 0x20 ≤ (Text.hexDigit value).toNat ∧ Text.hexDigit value ≠ '"' ∧
      Text.hexDigit value ≠ '\\' := by decide
  induction places generalizing number with
  | zero => cases member
  | succ places ih =>
      rcases List.mem_append.mp member with earlier | last
      · exact ih earlier
      · rw [List.mem_singleton.mp last]
        exact all (number % 16) (Nat.mod_lt number (by decide))

theorem shown_of_shortEscape? {letter character : Char}
    (meant : shortEscape? letter = some character) : 0x20 ≤ letter.toNat := by
  by_cases small : letter.toNat < 0x20
  · have none : ∀ code < 0x20, shortEscape? (Char.ofNat code) = none := by decide
    have refused := none letter.toNat small
    rw [Char.ofNat_toNat, meant] at refused
    cases refused
  · omega

theorem Form.shown {character : Char} {form : Text} (written : Form character form) :
    ∀ sign ∈ form, 0x20 ≤ sign.toNat := by
  intro sign member
  cases written with
  | plain _ _ shown =>
      rw [List.mem_singleton.mp member]
      exact shown
  | short letter meant =>
      rcases List.mem_cons.mp member with rfl | last
      · decide
      · rw [List.mem_singleton.mp last]
        exact shown_of_shortEscape? meant
  | unit _ =>
      rcases List.mem_cons.mp member with rfl | later
      · decide
      · rcases List.mem_cons.mp later with rfl | digit
        · decide
        · exact (shown_hexDigits digit).1

theorem Body.shown {text body : Text} (written : Body text body) :
    ∀ sign ∈ body, 0x20 ≤ sign.toNat := by
  induction written with
  | nil => simp
  | cons first _ ih =>
      intro sign member
      rcases List.mem_append.mp member with inFirst | inLater
      · exact first.shown sign inFirst
      · exact ih sign inLater

/-! ### Reading a string -/

theorem length_le_byteLength (text : Text) : text.length ≤ Utf8.byteLength text := by
  induction text with
  | nil => exact Nat.le_refl 0
  | cons character rest ih =>
      have positive := character.utf8Size_pos
      change rest.length + 1 ≤ character.utf8Size + Utf8.byteLength rest
      omega

/-- Four digits inside a string are read as the number that they were written for. -/
theorem tokensFrom_hexDigits (content : OpenString) (tokens : List Token) {number : Nat}
    (small : number < 0x10000) (rest : Text) :
    tokensFrom (.hex content 0 0) tokens (Text.hexDigits 4 number ++ rest) =
      tokensFrom (.string (content.addUnit number)) tokens rest := by
  have digit : ∀ value, Text.hexValue? (Text.hexDigit (value % 16)) = some (value % 16) :=
    fun value => Text.hexValue?_hexDigit (Nat.mod_lt value (by decide))
  have whole : (((number / 16 / 16 / 16 % 16) * 16 + number / 16 / 16 % 16) * 16 +
      number / 16 % 16) * 16 + number % 16 = number := by omega
  simp [Text.hexDigits, tokensFrom, advance, digit, whole]

theorem addUnit_of_small {earlier : Text} {character : Char} (small : character.toNat < 0xD800) :
    (OpenString.mk earlier none true).addUnit character.toNat = ⟨character :: earlier, none, true⟩ := by
  have first : ¬ 0xD800 ≤ character.toNat := by omega
  have second : ¬ 0xDC00 ≤ character.toNat := by omega
  simp [OpenString.addUnit, OpenString.add, first, second]

theorem Form.read {character : Char} {form : Text} (written : Form character form)
    (earlier : Text) (tokens : List Token) (rest : Text) :
    tokensFrom (.string ⟨earlier, none, true⟩) tokens (form ++ rest) =
      tokensFrom (.string ⟨character :: earlier, none, true⟩) tokens rest := by
  cases written with
  | plain noQuote noBackslash shown =>
      have control : ¬ character.toNat < 0x20 := by omega
      simp [tokensFrom, advance, noQuote, noBackslash, control, OpenString.add]
  | short letter meant =>
      have other : letter ≠ 'u' := by
        rintro rfl
        cases meant
      simp [tokensFrom, advance, other, meant, OpenString.add]
  | unit small =>
      have long : ¬ bytesAhead (Text.hexDigits 4 character.toNat ++ rest) < 4 := by
        have size := length_le_byteLength
          ((Text.hexDigits 4 character.toNat ++ rest).take 4)
        simp at size
        exact Nat.not_lt.mpr size
      have opened : tokensFrom (.string ⟨earlier, none, true⟩) tokens
          (('\\' :: 'u' :: Text.hexDigits 4 character.toNat) ++ rest) =
            tokensFrom (.hex ⟨earlier, none, true⟩ 0 0) tokens
              (Text.hexDigits 4 character.toNat ++ rest) := by
        simp [tokensFrom, advance, long]
      rw [opened, tokensFrom_hexDigits _ _ (by omega), addUnit_of_small small]

theorem Body.read {text body : Text} (written : Body text body) (earlier : Text)
    (tokens : List Token) (rest : Text) :
    tokensFrom (.string ⟨earlier, none, true⟩) tokens (body ++ rest) =
      tokensFrom (.string ⟨text.reverse ++ earlier, none, true⟩) tokens rest := by
  induction written generalizing earlier with
  | nil => rfl
  | cons first _ ih =>
      rw [List.append_assoc, first.read, ih]
      simp

theorem Body.tokens_literal {text body : Text} (written : Body text body) :
    tokens (['"'] ++ body ++ ['"']) = [.string (some text)] := by
  have opened : tokens (['"'] ++ body ++ ['"']) =
      tokensFrom (.string ⟨[], none, true⟩) [] (body ++ ['"']) := rfl
  rw [opened, written.read]
  simp [tokensFrom, advance, finish, OpenString.token]

/-- A literal is read back, whichever forms its characters have. -/
theorem Body.decode_literal {text body : Text} (written : Body text body) :
    decode Node.readText (['"'] ++ body ++ ['"']) = .ok text := by
  have read : Node.ofText (['"'] ++ body ++ ['"']) = (.string (some text), []) := by
    unfold Node.ofText
    rw [written.tokens_literal]
    rfl
  unfold decode
  rw [read]
  rfl

end RepeatScan.Json
