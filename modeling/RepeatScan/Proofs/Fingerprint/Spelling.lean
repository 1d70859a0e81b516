import RepeatScan.Proofs.Text.HexDigits

set_option autoImplicit false

/-! The spelling of fingerprints. The texts that are read are those of 32 hexadecimal digits; reading and
writing one again puts its letters into small ones. Whether a text has 32 digits may as well be asked of
its bytes, and then its number always fits. -/

namespace RepeatScan.Fingerprint

/-- A text of 32 hexadecimal digits. -/
def IsSpelled (text : Text) : Prop :=
  text.length = 32 ∧ ∀ digit ∈ text, digit ∈ Text.anyDigits

/-- The bytes of a text are codes of digits, as many as a fingerprint has. -/
def passes (text : Text) : Bool :=
  (Utf8.encode text).size == width && (Utf8.encode text).data.all Text.isHexByte

/-- Reads a fingerprint in two steps: the bytes are checked before the digits are put together. -/
def ofBytes (text : Text) : Except MalformedFingerprint Fingerprint :=
  if passes text then
    match Text.hexNumber? (2 ^ 128) text with
    | some number => .ok ⟨BitVec.ofNat 128 number⟩
    | none => .error ⟨text⟩
  else .error ⟨text⟩

variable {text : Text} {values : List Nat}

theorem passes_iff : passes text = true ↔ IsSpelled text := by
  unfold passes IsSpelled
  rw [Bool.and_eq_true, Text.all_isHexByte_encode, beq_iff_eq, Utf8.size_encode]
  apply and_congr_left
  intro digits
  rw [Text.byteLength_of_digits digits]
  rfl

theorem IsSpelled.exists_reads (spelled : IsSpelled text) :
    ∃ values, List.Forall₂ Text.Reads text values ∧ values.length = width := by
  obtain ⟨values, reads⟩ := Text.exists_reads_iff.mpr spelled.2
  exact ⟨values, reads, reads.length_eq.symm.trans spelled.1⟩

theorem ofText_of_reads (reads : List.Forall₂ Text.Reads text values)
    (length : values.length = width) :
    ofText text = .ok ⟨BitVec.ofNat 128 (Text.ofDigits 16 values)⟩ := by
  simp [ofText, Text.mapM_eq_of_reads reads, length]

theorem ofText_of_not_spelled (foreign : ¬ IsSpelled text) : ofText text = .error ⟨text⟩ := by
  unfold ofText
  cases read : text.mapM Text.hexValue? with
  | none => rfl
  | some values =>
      have reads := Text.reads_of_mapM read
      have digits := Text.exists_reads_iff.mp ⟨values, reads⟩
      have other : values.length ≠ width :=
        fun length => foreign ⟨reads.length_eq.trans length, digits⟩
      simp [other]

theorem toNat_ofDigits (reads : List.Forall₂ Text.Reads text values)
    (length : values.length = width) :
    (BitVec.ofNat 128 (Text.ofDigits 16 values)).toNat = Text.ofDigits 16 values := by
  have fits := (Text.hexDigits_ofDigits (Text.lt_of_reads reads)).1
  rw [length] at fits
  exact Nat.mod_eq_of_lt fits

theorem display_of_reads (reads : List.Forall₂ Text.Reads text values)
    (length : values.length = width) :
    display ⟨BitVec.ofNat 128 (Text.ofDigits 16 values)⟩ = text.map Char.toLower := by
  unfold display
  rw [toNat_ofDigits reads length, ← Text.map_hexDigit_of_reads reads,
    ← (Text.hexDigits_ofDigits (Text.lt_of_reads reads)).2, length]

theorem hexNumber?_of_reads (reads : List.Forall₂ Text.Reads text values)
    (length : values.length = width) :
    Text.hexNumber? (2 ^ 128) text = some (Text.ofDigits 16 values) := by
  have digits := Text.exists_reads_iff.mp ⟨values, reads⟩
  have long : text.length = width := reads.length_eq.trans length
  have inhabited : text.isEmpty = false := by
    cases text with
    | nil => cases long
    | cons digit later => rfl
  have room : (0 + 1) * 16 ^ text.length ≤ 2 ^ 128 := by
    rw [long]
    decide
  unfold Text.hexNumber?
  rw [Text.dropPlus_of_digits digits, inhabited]
  exact Text.hexBelow?_of_reads reads room

/-! ### Reading and writing -/

theorem exists_ofText_iff : (∃ fingerprint, ofText text = .ok fingerprint) ↔ IsSpelled text := by
  constructor
  · intro given
    by_cases spelled : IsSpelled text
    · exact spelled
    · rw [ofText_of_not_spelled spelled] at given
      cases given with
      | intro fingerprint read => cases read
  · intro spelled
    obtain ⟨values, reads, length⟩ := spelled.exists_reads
    exact ⟨_, ofText_of_reads reads length⟩

theorem display_of_ofText {fingerprint : Fingerprint} (read : ofText text = .ok fingerprint) :
    fingerprint.display = text.map Char.toLower := by
  have spelled := exists_ofText_iff.mp ⟨fingerprint, read⟩
  obtain ⟨values, reads, length⟩ := spelled.exists_reads
  rw [ofText_of_reads reads length] at read
  cases read
  exact display_of_reads reads length

theorem IsSpelled.exists_hexNumber? (spelled : IsSpelled text) :
    ∃ fingerprint, ofText text = .ok fingerprint ∧
      Text.hexNumber? (2 ^ 128) text = some fingerprint.word.toNat := by
  obtain ⟨values, reads, length⟩ := spelled.exists_reads
  refine ⟨_, ofText_of_reads reads length, ?_⟩
  rw [toNat_ofDigits reads length]
  exact hexNumber?_of_reads reads length

/-- Checking the bytes and then putting the digits together reads the same fingerprints. -/
theorem ofBytes_eq (text : Text) : ofBytes text = ofText text := by
  unfold ofBytes
  by_cases spelled : IsSpelled text
  · obtain ⟨fingerprint, read, number⟩ := spelled.exists_hexNumber?
    rw [if_pos (passes_iff.mpr spelled), number, read]
    simp only [BitVec.ofNat_toNat, BitVec.setWidth_eq]
  · have failed : ¬ passes text = true := fun passed => spelled (passes_iff.mp passed)
    rw [if_neg failed, ofText_of_not_spelled spelled]

/-- Fingerprints are written in 32 small digits and read back from them. The texts that are read are those
of 32 digits, small or capital; written again they have small letters. All other texts are handed back in
the error. Once its bytes are checked, a text is always a number of 128 bits, the one it is read as. -/
theorem spelling_exact :
    (∀ fingerprint : Fingerprint, ofText fingerprint.display = .ok fingerprint ∧
        fingerprint.display.length = 32 ∧
        ∀ digit ∈ fingerprint.display, digit ∈ Text.smallDigits) ∧
      ∀ text : Text,
        ((∃ fingerprint, ofText text = .ok fingerprint) ↔ IsSpelled text) ∧
        (∀ fingerprint, ofText text = .ok fingerprint →
          fingerprint.display = text.map Char.toLower) ∧
        (¬ IsSpelled text → ofText text = .error ⟨text⟩) ∧
        ofBytes text = ofText text ∧
        (passes text = true → ∃ fingerprint, ofText text = .ok fingerprint ∧
          Text.hexNumber? (2 ^ 128) text = some fingerprint.word.toNat) := by
  constructor
  · intro fingerprint
    exact ⟨ofText_display fingerprint, Text.length_hexDigits width _,
      fun _ => Text.mem_smallDigits_of_mem_hexDigits⟩
  · intro text
    exact ⟨exists_ofText_iff, fun _ => display_of_ofText, ofText_of_not_spelled, ofBytes_eq text,
      fun passed => (passes_iff.mp passed).exists_hexNumber?⟩

/-- Digits with capital letters among them. -/
def capitals : Text := "0123456789abcdefFEDCBA9876543210".toList

/-- A sign and digits, 32 characters in all. -/
def signed : Text := '+' :: List.replicate 31 'f'

/-- Characters of two bytes, 32 bytes in all. -/
def accented : Text := List.replicate 16 'é'

theorem spelling_exact_capitals :
    (∃ fingerprint, ofText capitals = .ok fingerprint ∧
        fingerprint.display = "0123456789abcdeffedcba9876543210".toList ∧
        Text.hexNumber? (2 ^ 128) capitals = some fingerprint.word.toNat) ∧
      ofText signed = .error ⟨signed⟩ ∧
      (Utf8.encode accented).size = 32 ∧ ofText accented = .error ⟨accented⟩ := by
  obtain ⟨_, spelling⟩ := spelling_exact
  obtain ⟨_, lowered, _, _, numbers⟩ := spelling capitals
  obtain ⟨fingerprint, read, number⟩ := numbers (by decide +kernel)
  obtain ⟨_, _, refused, _, _⟩ := spelling signed
  obtain ⟨_, _, alsoRefused, _, _⟩ := spelling accented
  refine ⟨⟨fingerprint, read, (lowered fingerprint read).trans (by decide), number⟩, ?_, by decide, ?_⟩
  · apply refused
    intro spelled
    exact absurd (spelled.2 '+' List.mem_cons_self) (by decide)
  · apply alsoRefused
    intro spelled
    exact absurd spelled.1 (by decide)

end RepeatScan.Fingerprint
