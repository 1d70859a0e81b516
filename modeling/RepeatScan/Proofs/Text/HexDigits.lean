import Mathlib.Data.List.Forall2
import Mathlib.Data.List.Induction
import RepeatScan.Proofs.Text.Digits
import RepeatScan.Proofs.Text.Utf8

set_option autoImplicit false

/-! Texts of hexadecimal digits, small and capital. Each digit has a value below sixteen, with which it is
written in a small letter; the values make up a number that has as many places; and the bytes of such a
text are codes of digits, one for each. -/

namespace RepeatScan.Text

def smallDigits : Text := "0123456789abcdef".toList

def anyDigits : Text := "0123456789abcdefABCDEF".toList

theorem ascii_of_mem_anyDigits {digit : Char} (member : digit ∈ anyDigits) : digit.toNat < 128 := by
  have all : anyDigits.all (fun digit => digit.toNat < 128) = true := by decide
  exact of_decide_eq_true (List.all_eq_true.mp all digit member)

theorem mem_smallDigits_of_mem_hexDigits {places number : Nat} {digit : Char}
    (member : digit ∈ hexDigits places number) : digit ∈ smallDigits := by
  induction places generalizing number with
  | zero => cases member
  | succ places ih =>
      rcases List.mem_append.mp member with earlier | last
      · exact ih earlier
      · have all : ∀ value < 16, hexDigit value ∈ smallDigits := by decide
        rw [List.mem_singleton.mp last]
        exact all (number % 16) (Nat.mod_lt number (by decide))

/-! ### Values of digits -/

/-- A digit has a value, with which it is written in a small letter. -/
structure Reads (digit : Char) (value : Nat) : Prop where
  value_eq : hexValue? digit = some value
  small : value < 16
  lowered : hexDigit value = digit.toLower

theorem exists_reads {digit : Char} (member : digit ∈ anyDigits) : ∃ value, Reads digit value := by
  have all : ∀ code < 128, Char.ofNat code ∈ anyDigits → ∃ value < 16,
      hexValue? (Char.ofNat code) = some value ∧ hexDigit value = (Char.ofNat code).toLower := by
    decide +kernel
  have found := all digit.toNat (ascii_of_mem_anyDigits member)
  rw [Char.ofNat_toNat] at found
  obtain ⟨value, small, read, lowered⟩ := found member
  exact ⟨value, read, small, lowered⟩

theorem mem_anyDigits_of_hexValue? {digit : Char} {value : Nat}
    (read : hexValue? digit = some value) : digit ∈ anyDigits := by
  have ascii : digit.toNat < 128 := by
    unfold hexValue? at read
    split at read
    · rename_i range
      exact Nat.lt_of_le_of_lt range.2 (by decide)
    · split at read
      · rename_i range
        exact Nat.lt_of_le_of_lt range.2 (by decide)
      · split at read
        · rename_i range
          exact Nat.lt_of_le_of_lt range.2 (by decide)
        · cases read
  have all : ∀ code < 128, (hexValue? (Char.ofNat code)).isSome = true →
      Char.ofNat code ∈ anyDigits := by decide
  have found := all digit.toNat ascii
  rw [Char.ofNat_toNat, read] at found
  exact found rfl

theorem reads_of_hexValue? {digit : Char} {value : Nat} (read : hexValue? digit = some value) :
    Reads digit value := by
  obtain ⟨other, reads⟩ := exists_reads (mem_anyDigits_of_hexValue? read)
  obtain rfl := Option.some.inj (reads.value_eq.symm.trans read)
  exact reads

variable {text : Text} {values : List Nat}

theorem mapM_eq_of_reads (reads : List.Forall₂ Reads text values) :
    text.mapM hexValue? = some values := by
  induction reads with
  | nil => rfl
  | cons first later ih =>
      rw [List.mapM_cons, first.value_eq, ih]
      rfl

theorem reads_of_mapM (read : text.mapM hexValue? = some values) :
    List.Forall₂ Reads text values := by
  induction text generalizing values with
  | nil =>
      cases read
      exact .nil
  | cons digit later ih =>
      rw [List.mapM_cons] at read
      cases first : hexValue? digit with
      | none =>
          rw [first] at read
          cases read
      | some value =>
          cases rest : later.mapM hexValue? with
          | none =>
              rw [first, rest] at read
              cases read
          | some others =>
              rw [first, rest] at read
              cases read
              exact .cons (reads_of_hexValue? first) (ih rest)

theorem exists_reads_iff :
    (∃ values, List.Forall₂ Reads text values) ↔ ∀ digit ∈ text, digit ∈ anyDigits := by
  constructor
  · intro given
    obtain ⟨values, reads⟩ := given
    induction reads with
    | nil => simp
    | cons first later ih =>
        intro digit member
        cases List.mem_cons.mp member with
        | inl same =>
            rw [same]
            exact mem_anyDigits_of_hexValue? first.value_eq
        | inr inside => exact ih digit inside
  · intro digits
    induction text with
    | nil => exact ⟨[], .nil⟩
    | cons digit later ih =>
        obtain ⟨value, first⟩ := exists_reads (digits digit List.mem_cons_self)
        obtain ⟨values, rest⟩ := ih fun other inside => digits other (List.mem_cons_of_mem digit inside)
        exact ⟨value :: values, .cons first rest⟩

theorem map_hexDigit_of_reads (reads : List.Forall₂ Reads text values) :
    values.map hexDigit = text.map Char.toLower := by
  induction reads with
  | nil => rfl
  | cons first later ih => rw [List.map_cons, List.map_cons, first.lowered, ih]

theorem lt_of_reads (reads : List.Forall₂ Reads text values) : ∀ value ∈ values, value < 16 := by
  induction reads with
  | nil => simp
  | cons first later ih =>
      intro value member
      rcases List.mem_cons.mp member with rfl | inside
      · exact first.small
      · exact ih value inside

/-- The digits at as many places as there are values are those with these values, whose number fits into
the places. -/
theorem hexDigits_ofDigits (small : ∀ value ∈ values, value < 16) :
    ofDigits 16 values < 16 ^ values.length ∧
      hexDigits values.length (ofDigits 16 values) = values.map hexDigit := by
  induction values using List.reverseRecOn with
  | nil => exact ⟨by decide, rfl⟩
  | append_singleton values value ih =>
      obtain ⟨fits, digits⟩ := ih fun other inside => small other (List.mem_append_left [value] inside)
      have last : value < 16 := small value (by simp)
      have quotient : (ofDigits 16 values * 16 + value) / 16 = ofDigits 16 values := by omega
      have remainder : (ofDigits 16 values * 16 + value) % 16 = value := by omega
      rw [ofDigits_concat, List.length_append, List.length_singleton, List.map_append, hexDigits,
        quotient, remainder, digits]
      constructor
      · rw [Nat.pow_succ]
        omega
      · rfl

/-! ### Numbers below a limit -/

/-- Reads digits behind a number, which has to stay below a limit. -/
def hexBelow? (limit number : Nat) : Text → Option Nat
  | [] => some number
  | digit :: later => do
      let longer := number * 16 + (← hexValue? digit)
      if longer < limit then hexBelow? limit longer later else none

/-- The number below a limit that hexadecimal digits stand for; a plus sign may stand before them. -/
def hexNumber? (limit : Nat) (text : Text) : Option Nat :=
  if (dropPlus text).isEmpty then none else hexBelow? limit 0 (dropPlus text)

theorem hexBelow?_of_reads (reads : List.Forall₂ Reads text values) {limit number : Nat}
    (room : (number + 1) * 16 ^ text.length ≤ limit) :
    hexBelow? limit number text =
      some (values.foldl (fun number value => number * 16 + value) number) := by
  -- The number read so far leaves room for the digits behind it.
  induction reads generalizing number with
  | nil => rfl
  | @cons digit value later values first rest ih =>
      have within : (number * 16 + value + 1) * 16 ^ later.length ≤ limit := by
        have small := first.small
        calc (number * 16 + value + 1) * 16 ^ later.length
            ≤ ((number + 1) * 16) * 16 ^ later.length := Nat.mul_le_mul_right _ (by omega)
          _ = (number + 1) * 16 ^ (later.length + 1) := by rw [Nat.mul_assoc, Nat.pow_succ']
          _ ≤ limit := room
      have below : number * 16 + value < limit :=
        Nat.le_trans (Nat.le_mul_of_pos_right _ (Nat.pow_pos (by decide))) within
      simp [hexBelow?, first.value_eq, below, ih within]

theorem dropPlus_of_digits (digits : ∀ digit ∈ text, digit ∈ anyDigits) : dropPlus text = text := by
  cases text with
  | nil => rfl
  | cons digit later =>
      have unsigned : digit ≠ '+' := by
        intro sign
        have listed := digits digit List.mem_cons_self
        rw [sign] at listed
        exact absurd listed (by decide)
      unfold dropPlus
      split
      · rename_i same
        exact absurd (List.cons.inj same).1 unsigned
      · rfl

/-! ### Bytes of digits -/

/-- Whether a byte is the code of a hexadecimal digit. -/
def isHexByte (byte : UInt8) : Bool :=
  0x30 ≤ byte && byte ≤ 0x39 || 0x41 ≤ byte && byte ≤ 0x46 || 0x61 ≤ byte && byte ≤ 0x66

theorem isHexByte_eq_false {byte : UInt8} (high : 128 ≤ byte.toNat) : isHexByte byte = false := by
  have all : ∀ code < 256, 128 ≤ code → isHexByte (UInt8.ofNat code) = false := by
    decide +kernel
  have found := all byte.toNat byte.toNat_lt high
  rwa [UInt8.ofNat_toNat] at found

/-- A character beyond the first 128 begins with a byte that is none of theirs. -/
theorem exists_lead {character : Char} (high : 128 ≤ character.toNat) :
    ∃ lead later, String.utf8EncodeChar character = lead :: later ∧ 128 ≤ lead.toNat := by
  unfold String.utf8EncodeChar
  change 128 ≤ character.val.toNat at high
  dsimp only
  split
  · omega
  · split
    · refine ⟨_, _, rfl, ?_⟩
      rw [UInt8.toNat_ofNat']
      omega
    · split
      · refine ⟨_, _, rfl, ?_⟩
        rw [UInt8.toNat_ofNat']
        omega
      · refine ⟨_, _, rfl, ?_⟩
        rw [UInt8.toNat_ofNat']
        omega

theorem all_isHexByte_utf8EncodeChar (character : Char) :
    (String.utf8EncodeChar character).all isHexByte = true ↔ character ∈ anyDigits := by
  by_cases low : character.toNat < 128
  · have all : ∀ code < 128, ((String.utf8EncodeChar (Char.ofNat code)).all isHexByte = true ↔
        Char.ofNat code ∈ anyDigits) := by decide +kernel
    have found := all character.toNat low
    rwa [Char.ofNat_toNat] at found
  · obtain ⟨lead, later, split, high⟩ := exists_lead (by omega : 128 ≤ character.toNat)
    rw [split, List.all_cons, isHexByte_eq_false high]
    constructor
    · intro impossible
      cases impossible
    · intro member
      exact absurd (ascii_of_mem_anyDigits member) low

/-- The bytes of a text are codes of digits exactly if its characters are digits. -/
theorem all_isHexByte_encode (text : Text) :
    (Utf8.encode text).data.all isHexByte = true ↔ ∀ digit ∈ text, digit ∈ anyDigits := by
  change (text.flatMap String.utf8EncodeChar).toByteArray.data.all isHexByte = true ↔ _
  rw [List.data_toByteArray, List.all_toArray, List.all_flatMap, List.all_eq_true]
  exact forall₂_congr fun digit _ => all_isHexByte_utf8EncodeChar digit

theorem byteLength_of_digits (digits : ∀ digit ∈ text, digit ∈ anyDigits) :
    Utf8.byteLength text = text.length := by
  induction text with
  | nil => rfl
  | cons digit later ih =>
      have single : digit.utf8Size = 1 := by
        rw [Char.utf8Size_eq_one_iff]
        exact Nat.le_of_lt_succ (ascii_of_mem_anyDigits (digits digit List.mem_cons_self))
      have rest := ih fun other inside => digits other (List.mem_cons_of_mem digit inside)
      change digit.utf8Size + Utf8.byteLength later = _
      rw [single, rest, List.length_cons, Nat.add_comm]

end RepeatScan.Text
