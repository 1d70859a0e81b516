import Mathlib.Data.Fintype.EquivFin
import Mathlib.Data.Nat.ModEq
import Mathlib.Data.Nat.Prime.Basic
import RepeatScan.Proofs.Fingerprint.Rolling

set_option autoImplicit false

/-! What a fingerprint tells apart. Mixing only renames words: each of its steps can be undone, a
multiplication because its factor is odd and a fold because it moves every bit down. So fingerprints
are equal exactly when the weighted sums of the hashes are equal modulo 2 ^ 128. As the base is odd,
too, a change of a single token shows in the sum whenever it shows in the hash of the token. Nothing
is assumed of this hash. -/

namespace RepeatScan.Fingerprint

/-! ### Undoing the mix -/

theorem foldDown_xor (amount : Nat) (left right : Word) :
    foldDown amount left ^^^ foldDown amount right = foldDown amount (left ^^^ right) := by
  unfold foldDown
  rw [BitVec.ushiftRight_xor_distrib]
  ac_rfl

private theorem eq_zero_of_foldDown {amount : Nat} (positive : 0 < amount) {word : Word}
    (vanishes : foldDown amount word = 0) : word = 0 := by
  -- Such a word stays the same when it is moved down, and only zero does.
  have same : word = word >>> amount := BitVec.xor_eq_zero_iff.mp vanishes
  have value := congrArg BitVec.toNat same
  rw [BitVec.toNat_ushiftRight, Nat.shiftRight_eq_div_pow] at value
  by_contra nonzero
  have large : 0 < word.toNat :=
    Nat.pos_of_ne_zero fun zero => nonzero (BitVec.eq_of_toNat_eq zero)
  have smaller := Nat.div_lt_self large (Nat.one_lt_two_pow (Nat.ne_of_gt positive))
  omega

theorem foldDown_injective {amount : Nat} (positive : 0 < amount) :
    Function.Injective (foldDown amount) := by
  intro left right same
  apply BitVec.xor_eq_zero_iff.mp
  apply eq_zero_of_foldDown positive
  rw [← foldDown_xor, same, BitVec.xor_self]
  rfl

theorem isUnit_of_odd {word : Word} (odd : word.toNat % 2 = 1) : IsUnit word := by
  have coprime : Nat.Coprime word.toNat (2 ^ 128) :=
    (Nat.coprime_two_right.mpr (Nat.odd_iff.mpr odd)).pow_right 128
  rcases Nat.exists_mul_mod_eq_one_of_coprime coprime (by decide) with ⟨inverse, _, product⟩
  refine IsUnit.of_mul_eq_one (BitVec.ofNat 128 inverse) (BitVec.eq_of_toNat_eq ?_)
  rw [BitVec.toNat_mul, BitVec.toNat_ofNat, Nat.mul_mod_mod, product]
  rfl

theorem mix_injective : Function.Injective mix := by
  have first : IsUnit firstFactor := isUnit_of_odd (by decide)
  have second : IsUnit secondFactor := isUnit_of_odd (by decide)
  intro left right same
  unfold mix at same
  have beforeLast := foldDown_injective (by decide) same
  have middle := foldDown_injective (by decide) (second.mul_left_inj.mp beforeLast)
  exact foldDown_injective (by decide) (first.mul_left_inj.mp middle)

theorem mix_bijective : Function.Bijective mix := by
  have : Finite Word := Finite.of_equiv _ BitVec.equivFin.symm.toEquiv
  exact Finite.injective_iff_bijective.mp mix_injective

theorem ofTokensBy_eq_iff {hash : Token → Word} {left right : List Token} :
    ofTokensBy hash left = ofTokensBy hash right ↔
      polynomial (left.map hash) = polynomial (right.map hash) := by
  unfold ofTokensBy
  rw [Fingerprint.mk.injEq]
  exact mix_injective.eq_iff

/-! ### Sums -/

/-- The sum of some coefficients, each times the power of the base that counts those behind it, as a
number without a bound. -/
def weighted : List Word → Nat
  | [] => 0
  | coefficient :: later => coefficient.toNat * base.toNat ^ later.length + weighted later

theorem polynomial_eq_cast (coefficients : List Word) :
    polynomial coefficients = (weighted coefficients : Word) := by
  have whole (word : Word) : ((word.toNat : Nat) : Word) = word := by simp
  induction coefficients with
  | nil => rfl
  | cons coefficient later ih =>
      rw [polynomial_cons, ih, weighted]
      push_cast
      rw [whole, whole]

theorem polynomial_eq_iff {left right : List Word} :
    polynomial left = polynomial right ↔ weighted left ≡ weighted right [MOD 2 ^ 128] := by
  rw [polynomial_eq_cast, polynomial_eq_cast, BitVec.natCast_eq_ofNat, BitVec.natCast_eq_ofNat,
    ← BitVec.toNat_inj, BitVec.toNat_ofNat, BitVec.toNat_ofNat]
  rfl

/-! ### A single coefficient -/

private theorem polynomial_append (earlier later : List Word) :
    polynomial (earlier ++ later) =
      polynomial earlier * base ^ later.length + polynomial later := by
  induction earlier with
  | nil => simp [polynomial]
  | cons coefficient earlier ih =>
      rw [List.cons_append, polynomial_cons, polynomial_cons, ih, List.length_append, pow_add]
      ring

theorem polynomial_middle_eq_iff {earlier later : List Word} {first second : Word} :
    polynomial (earlier ++ first :: later) = polynomial (earlier ++ second :: later) ↔
      first = second := by
  have unit : IsUnit (base ^ later.length) := IsUnit.pow _ (isUnit_of_odd (by decide))
  rw [polynomial_append, polynomial_append, List.length_cons, List.length_cons, add_right_inj,
    polynomial_cons, polynomial_cons, add_left_inj, unit.mul_left_inj]

private theorem eq_around {Item : Type} {left right : List Item} {position : Nat}
    {first second : Item} (here : left[position]? = some first)
    (there : right[position]? = some second)
    (elsewhere : ∀ other, other ≠ position → left[other]? = right[other]?) :
    ∃ before after, left = before ++ first :: after ∧ right = before ++ second :: after := by
  have changed : right = left.set position second := by
    apply List.ext_getElem?
    intro other
    have inside : position < left.length := (List.getElem?_eq_some_iff.mp here).1
    rw [List.getElem?_set]
    by_cases same : position = other
    · rw [if_pos same, if_pos inside, ← same, there]
    · rw [if_neg same, elsewhere other fun equal => same equal.symm]
  rcases List.getElem?_eq_some_iff.mp here with ⟨inside, found⟩
  refine ⟨left.take position, left.drop (position + 1), ?_, ?_⟩
  · rw [← found, List.getElem_cons_drop, List.take_append_drop]
  · rw [changed, List.set_eq_take_append_cons_drop, if_pos inside]

/-- Mixing is a bijection, so fingerprints are equal exactly when the weighted sums of the hashes are
equal modulo 2 ^ 128. And two lists of tokens that agree everywhere but at one position have the same
fingerprint exactly when their tokens at this position have the same hash. -/
theorem ofTokensBy_telling :
    Function.Bijective mix ∧
      (∀ (hash : Token → Word) (left right : List Token),
        ofTokensBy hash left = ofTokensBy hash right ↔
          weighted (left.map hash) ≡ weighted (right.map hash) [MOD 2 ^ 128]) ∧
      ∀ (hash : Token → Word) (left right : List Token) (position : Nat) (first second : Token),
        left[position]? = some first → right[position]? = some second →
          (∀ other, other ≠ position → left[other]? = right[other]?) →
            (ofTokensBy hash left = ofTokensBy hash right ↔ hash first = hash second) := by
  refine ⟨mix_bijective, ?_, ?_⟩
  · intro hash left right
    rw [ofTokensBy_eq_iff, polynomial_eq_iff]
  · intro hash left right position first second here there elsewhere
    rcases eq_around here there elsewhere with ⟨before, after, rfl, rfl⟩
    rw [ofTokensBy_eq_iff, List.map_append, List.map_append, List.map_cons, List.map_cons,
      polynomial_middle_eq_iff]

/-- A hash that tells no more of a token than its length. -/
def lengthHash (token : Token) : Word :=
  BitVec.ofNat 128 token.length

theorem ofTokensBy_telling_lengths :
    ofTokensBy lengthHash [['1'], ['2', '0'], ['3']] ≠ ofTokensBy lengthHash [['1'], ['2'], ['3']] ∧
      ofTokensBy lengthHash [['1'], ['2'], ['3']] =
        ofTokensBy lengthHash [['1'], ['4'], ['3']] := by
  have change := ofTokensBy_telling.2.2 lengthHash
  have elsewhere (first second : Token) (other : Nat) (different : other ≠ 1) :
      [['1'], first, ['3']][other]? = [['1'], second, ['3']][other]? := by
    rcases other with _ | _ | later
    · rfl
    · exact absurd rfl different
    · rfl
  constructor
  · intro same
    have hashes := (change _ _ 1 ['2', '0'] ['2'] rfl rfl (elsewhere _ _)).mp same
    exact absurd hashes (by decide)
  · exact (change _ _ 1 ['2'] ['4'] rfl rfl (elsewhere _ _)).mpr rfl

end RepeatScan.Fingerprint
