import Mathlib.Order.Bounds.Basic
import RepeatScan.Text.Utf8

set_option autoImplicit false

/-! Encoded texts. Reading bytes gives a text exactly if they are its encoding. All other bytes begin
with the encoding of some text that cannot be continued by a character, and no longer beginning of them
encodes a text; reading stops right behind it. -/

namespace RepeatScan.Utf8

theorem encode_nil : encode [] = ByteArray.empty := rfl

theorem encode_cons (character : Char) (text : Text) :
    encode (character :: text) = (String.utf8EncodeChar character).toByteArray ++ encode text := by
  change (character :: text).utf8Encode = _ ++ text.utf8Encode
  rw [List.utf8Encode_cons, List.utf8Encode_singleton]

theorem encode_append (left right : Text) : encode (left ++ right) = encode left ++ encode right :=
  List.utf8Encode_append

theorem size_encode (text : Text) : (encode text).size = byteLength text := by
  induction text with
  | nil => rfl
  | cons character text ih =>
      rw [encode_cons, ByteArray.size_append, List.size_toByteArray, String.length_utf8EncodeChar, ih]
      rfl

theorem encode_injective {left right : Text} (same : encode left = encode right) : left = right := by
  have strings : String.ofList left = String.ofList right := String.toByteArray_inj.mp same
  exact String.ofList_injective strings

/-! ### One character -/

/-- No character stands at the beginning. -/
def Broken (bytes : ByteArray) : Prop :=
  bytes.utf8DecodeChar? 0 = none

theorem decodeChar?_behind (text : Text) (rest : ByteArray) :
    (encode text ++ rest).utf8DecodeChar? (encode text).size = rest.utf8DecodeChar? 0 := by
  rw [ByteArray.utf8DecodeChar?_eq_utf8DecodeChar?_extract, ByteArray.size_append,
    ByteArray.extract_append_eq_right rfl rfl]

theorem exists_rest {bytes : ByteArray} {character : Char}
    (found : bytes.utf8DecodeChar? 0 = some character) :
    ∃ rest, bytes = encode [character] ++ rest := by
  obtain ⟨rest, same⟩ := ByteArray.exists_of_utf8DecodeChar?_eq_some found
  refine ⟨rest, same.trans ?_⟩
  rw [encode_cons, encode_nil, ByteArray.append_empty]

theorem decodeChar?_encode_cons (character : Char) (text : Text) (rest : ByteArray) :
    (encode (character :: text) ++ rest).utf8DecodeChar? 0 = some character := by
  rw [encode_cons, ByteArray.append_assoc]
  exact ByteArray.utf8DecodeChar?_utf8EncodeChar_append

/-! ### Whole texts -/

/-- Of two texts with which the same bytes begin, one that no character follows is the longer one. -/
theorem size_le_of_broken {text other : Text} {rest behind : ByteArray} (broken : Broken rest)
    (same : encode text ++ rest = encode other ++ behind) :
    (encode other).size ≤ (encode text).size := by
  induction text generalizing other with
  | nil =>
      cases other with
      | nil => exact Nat.le_refl _
      | cons next later =>
          rw [encode_nil, ByteArray.empty_append] at same
          rw [Broken, same, decodeChar?_encode_cons] at broken
          cases broken
  | cons character text ih =>
      cases other with
      | nil => exact Nat.zero_le _
      | cons next later =>
          have first := decodeChar?_encode_cons character text rest
          rw [same, decodeChar?_encode_cons] at first
          obtain rfl := Option.some.inj first
          rw [encode_cons, encode_cons, ByteArray.append_assoc, ByteArray.append_assoc,
            ByteArray.append_right_inj] at same
          rw [encode_cons, encode_cons, ByteArray.size_append, ByteArray.size_append]
          exact Nat.add_le_add_left (ih same) _

/-- The bytes encode a text, or they begin with one that something else than a character follows. -/
inductive Reading (bytes : ByteArray) : Except Nat Text → Prop
  | whole {text : Text} (same : bytes = encode text) : Reading bytes (.ok text)
  | broken {text : Text} {rest : ByteArray} (same : bytes = encode text ++ rest)
      (more : 0 < rest.size) (broken : Broken rest) : Reading bytes (.error (encode text).size)

/-- What is read so far stands at the beginning, last character first, and reading goes on behind it. -/
theorem reading_decodeFrom {bytes rest : ByteArray} {position : Nat} {earlier : Text}
    (split : bytes = encode earlier.reverse ++ rest)
    (reached : position = (encode earlier.reverse).size) :
    Reading bytes (decodeFrom bytes position earlier) := by
  induction position, earlier using decodeFrom.induct bytes generalizing rest with
  | case1 position earlier inside character found ih =>
      rw [decodeFrom, if_pos inside, found]
      rw [split, reached, decodeChar?_behind] at found
      obtain ⟨behind, rfl⟩ := exists_rest found
      have longer : encode (character :: earlier).reverse =
          encode earlier.reverse ++ encode [character] := by
        rw [List.reverse_cons, encode_append]
      apply ih
      · rw [split, longer, ByteArray.append_assoc]
      · rw [reached, longer, ByteArray.size_append, size_encode [character]]
        rfl
  | case2 position earlier inside missing =>
      rw [decodeFrom, if_pos inside, missing]
      rw [split, reached, decodeChar?_behind] at missing
      rw [split, reached, ByteArray.size_append] at inside
      rw [reached]
      exact Reading.broken split (by omega) missing
  | case3 position earlier outside =>
      rw [decodeFrom, if_neg outside]
      rw [split, reached, ByteArray.size_append] at outside
      obtain rfl := ByteArray.size_eq_zero_iff.mp (by omega : rest.size = 0)
      rw [ByteArray.append_empty] at split
      exact Reading.whole split

theorem reading_decode (bytes : ByteArray) : Reading bytes (decode bytes) :=
  reading_decodeFrom (ByteArray.empty_append.symm) rfl

/-- Bytes are read as a text exactly if they are its encoding. -/
theorem decode_eq_ok_iff {bytes : ByteArray} {text : Text} :
    decode bytes = .ok text ↔ bytes = encode text := by
  have reading := reading_decode bytes
  constructor
  · intro read
    rw [read] at reading
    cases reading with
    | whole same => exact same
  · intro same
    cases result : decode bytes with
    | ok other =>
        rw [result] at reading
        cases reading with
        | whole again => rw [encode_injective (again.symm.trans same)]
    | error valid =>
        rw [result] at reading
        cases reading with
        | @broken before rest split more broken =>
            -- No character follows the beginning that was read, so the whole text is no longer than it.
            have whole : encode before ++ rest = encode text ++ ByteArray.empty := by
              rw [ByteArray.append_empty, ← split, same]
            have longer := congrArg ByteArray.size whole
            rw [ByteArray.size_append, ByteArray.size_append, ByteArray.size_empty] at longer
            have bound := size_le_of_broken broken whole
            omega

/-- The number of bytes with which some bytes begin and that encode a text. -/
def Prefixes (bytes : ByteArray) : Set Nat :=
  {count | ∃ text rest, bytes = encode text ++ rest ∧ (encode text).size = count}

/-- Where reading stops early, it stops behind the longest beginning that encodes a text. -/
theorem isGreatest_of_decode {bytes : ByteArray} {valid : Nat} (failed : decode bytes = .error valid) :
    valid < bytes.size ∧ IsGreatest (Prefixes bytes) valid := by
  have reading := reading_decode bytes
  rw [failed] at reading
  cases reading with
  | @broken text rest split more broken =>
      constructor
      · rw [split, ByteArray.size_append]
        omega
      · constructor
        · exact ⟨text, rest, split, rfl⟩
        · intro count member
          obtain ⟨other, behind, same, rfl⟩ := member
          exact size_le_of_broken broken (split.symm.trans same)

end RepeatScan.Utf8
