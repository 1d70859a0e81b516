import Mathlib.Data.BitVec
import Mathlib.Tactic.Ring
import RepeatScan.Fingerprint.Rolling

set_option autoImplicit false

/-! Rolling and direct fingerprints. The value that slides along the tokens is, at every start, the
polynomial of the window there, so windows of the same tokens have the same fingerprint wherever they
stand. Nothing is assumed of the hash of tokens. -/

namespace RepeatScan.Fingerprint

/-! ### Hashing each token once -/

private theorem remember_fold (hash : Token → Word) (tokens : List Token)
    (known : List (Token × Word)) (earlier : List Word)
    (faithful : ∀ token word, known.lookup token = some word → word = hash token) :
    (tokens.foldl (remember hash) (known, earlier)).2 = (tokens.map hash).reverse ++ earlier := by
  induction tokens generalizing known earlier with
  | nil => rfl
  | cons token later ih =>
      rw [List.foldl_cons, List.map_cons, List.reverse_cons, List.append_assoc, remember]
      cases found : known.lookup token with
      | some word =>
          dsimp only
          rw [ih known (word :: earlier) faithful, faithful token word found]
          rfl
      | none =>
          dsimp only
          apply ih
          intro other word present
          rw [List.lookup_cons] at present
          by_cases same : other = token
          · subst same
            simp only [beq_self_eq_true, Option.some.injEq] at present
            exact present.symm
          · rw [beq_eq_false_iff_ne.mpr same] at present
            exact faithful other word present

theorem hashes_eq_map (hash : Token → Word) (tokens : List Token) :
    hashes hash tokens = tokens.map hash := by
  unfold hashes
  rw [remember_fold hash tokens [] [] (by intro token word impossible; cases impossible),
    List.append_nil, List.reverse_reverse]

/-! ### The polynomial -/

theorem power_eq_pow (factor : Word) (exponent : Nat) : power factor exponent = factor ^ exponent := by
  induction exponent using Nat.strong_induction_on generalizing factor with
  | _ exponent ih =>
      rw [power]
      by_cases zero : exponent = 0
      · rw [if_pos zero, zero, pow_zero]
      · have half := ih (exponent / 2) (Nat.div_lt_self (Nat.pos_of_ne_zero zero) (by omega))
          (factor * factor)
        have square : (factor * factor) ^ (exponent / 2) = factor ^ (2 * (exponent / 2)) := by
          rw [pow_mul, pow_two]
        rw [if_neg zero]
        simp only [half, square]
        by_cases odd : exponent % 2 = 1
        · have split : exponent = 2 * (exponent / 2) + 1 := by omega
          rw [if_pos odd, ← pow_succ', ← split]
        · have split : exponent = 2 * (exponent / 2) := by omega
          rw [if_neg odd, ← split]

theorem polynomial_append_single (coefficients : List Word) (entering : Word) :
    polynomial (coefficients ++ [entering]) = polynomial coefficients * base + entering := by
  rw [polynomial, List.foldl_append]
  rfl

theorem polynomial_cons (leaving : Word) (coefficients : List Word) :
    polynomial (leaving :: coefficients) =
      leaving * base ^ coefficients.length + polynomial coefficients := by
  induction coefficients using List.reverseRecOn with
  | nil => simp [polynomial]
  | append_singleton earlier entering ih =>
      rw [← List.cons_append, polynomial_append_single, ih, polynomial_append_single,
        List.length_append, List.length_singleton, pow_succ]
      ring

/-- One token leaves at the front and one enters at the end. -/
theorem polynomial_step (leaving entering : Word) (kept : List Word) :
    (polynomial (leaving :: kept) - leaving * base ^ kept.length) * base + entering =
      polynomial (kept ++ [entering]) := by
  rw [polynomial_append_single, polynomial_cons]
  ring

/-! ### Sliding along the tokens -/

/-- The runs of a length, from the first start to the last. -/
def runs {Item : Type} (size : Nat) (items : List Item) : List (List Item) :=
  (List.range (items.length + 1 - size)).map fun start => (items.drop start).take size

private theorem runs_last {Item : Type} {size : Nat} {items : List Item}
    (whole : items.length = size) : runs size items = [items.take size] := by
  have single : items.length + 1 - size = 1 := by omega
  rw [runs, single]
  rfl

private theorem runs_cons {Item : Type} {size : Nat} {first : Item} {later : List Item}
    (longer : size ≤ later.length) :
    runs size (first :: later) = (first :: later).take size :: runs size later := by
  have more : (first :: later).length + 1 - size = later.length + 1 - size + 1 := by
    rw [List.length_cons]
    omega
  rw [runs, more, List.range_succ_eq_map, List.map_cons, List.map_map]
  rfl

-- The list behind the window is consumed from the front, so the window is always its beginning.
private theorem slide_eq (size : Nat) (positive : 0 < size) (coefficients : List Word)
    (fits : size ≤ coefficients.length) (earlier : List Word) :
    slide (base ^ (size - 1)) (polynomial (coefficients.take size)) earlier
        (coefficients.zip (coefficients.drop size)) =
      earlier.reverse ++ (runs size coefficients).map polynomial := by
  induction coefficients generalizing earlier with
  | nil =>
      rw [List.length_nil] at fits
      omega
  | cons leaving later ih =>
      rw [List.length_cons] at fits
      by_cases longer : size ≤ later.length
      · obtain ⟨kept, sizeEq⟩ : ∃ kept, size = kept + 1 := ⟨size - 1, by omega⟩
        have inside : kept < later.length := by omega
        have dropped : (leaving :: later).drop size = later[kept] :: later.drop size := by
          rw [sizeEq, List.drop_succ_cons, List.drop_eq_getElem_cons inside]
        have window : (leaving :: later).take size = leaving :: later.take kept := by
          rw [sizeEq, List.take_succ_cons]
        have next : later.take size = later.take kept ++ [later[kept]] := by
          rw [sizeEq, List.take_succ_eq_append_getElem inside]
        have short : size - 1 = (later.take kept).length := by
          rw [List.length_take, Nat.min_eq_left (Nat.le_of_lt inside), sizeEq]
          rfl
        have moved := polynomial_step leaving later[kept] (later.take kept)
        rw [runs_cons longer, List.map_cons, dropped, List.zip_cons_cons, slide, window,
          short, moved, ← next, ← short, ih longer, List.reverse_cons, List.append_assoc]
        rfl
      · have whole : (leaving :: later).length = size := by
          rw [List.length_cons]
          omega
        have gone : (leaving :: later).drop size = [] :=
          List.drop_eq_nil_of_le (Nat.le_of_eq whole)
        rw [runs_last whole, gone, List.zip_nil_right, slide, List.reverse_cons]
        rfl

theorem slice_window (tokens : List Token) (start size : Nat) :
    (tokens.take (start + size)).drop start = (tokens.drop start).take size := by
  rw [List.drop_take, Nat.add_sub_cancel_left]

/-- The windows of some tokens: one for each start, with the fingerprint of the tokens there. -/
theorem windowsBy_eq (hash : Token → Word) (size : Nat) (tokens : List Token) :
    windowsBy hash size tokens =
      (List.range (Window.count tokens.length size)).map fun start =>
        ⟨start, ofTokensBy hash ((tokens.drop start).take size)⟩ := by
  unfold windowsBy
  by_cases none : Window.count tokens.length size = 0
  · rw [if_pos none, none]
    rfl
  · have positive : 0 < size := by
      apply Nat.pos_of_ne_zero
      rintro rfl
      exact none rfl
    have count : Window.count tokens.length size = tokens.length + 1 - size :=
      Window.count_of_pos positive
    have fits : size ≤ (tokens.map hash).length := by
      rw [List.length_map]
      omega
    simp only [if_neg none, hashes_eq_map, power_eq_pow]
    rw [slide_eq size positive _ fits, List.reverse_nil, List.nil_append, count]
    apply List.ext_getElem
    · simp [runs]
    · intro position left right
      simp [runs, ofTokensBy, List.map_drop, List.map_take]

private theorem fingerprint_of_mem_windowsBy {hash : Token → Word} {size : Nat}
    {tokens : List Token} {window : WindowPrint} (member : window ∈ windowsBy hash size tokens) :
    window.fingerprint =
      ofTokensBy hash (tokens.extract window.start (window.start + size)) := by
  rw [windowsBy_eq] at member
  rcases List.mem_map.mp member with ⟨start, _, rfl⟩
  rw [List.extract_eq_take_drop, Nat.add_sub_cancel_left]

/-- Whatever tokens are hashed to, rolling along them gives one window for every start at which one
fits, in order, with the fingerprint that its tokens have by themselves. So windows of the same
tokens have one fingerprint, also in different sources. -/
theorem windowsBy_rolling (hash : Token → Word) (size : Nat) (tokens : List Token) :
    (windowsBy hash size tokens).length = Window.count tokens.length size ∧
      (windowsBy hash size tokens = [] ↔ size = 0 ∨ tokens.length < size) ∧
      (∀ (start : Nat) (inside : start < (windowsBy hash size tokens).length),
        (windowsBy hash size tokens)[start] =
          ⟨start, ofTokensBy hash (tokens.extract start (start + size))⟩) ∧
      ∀ (others : List Token), ∀ first ∈ windowsBy hash size tokens,
        ∀ second ∈ windowsBy hash size others,
          tokens.extract first.start (first.start + size) =
              others.extract second.start (second.start + size) →
            first.fingerprint = second.fingerprint := by
  have count : (windowsBy hash size tokens).length = Window.count tokens.length size := by
    rw [windowsBy_eq, List.length_map, List.length_range]
  refine ⟨count, ?_, ?_, ?_⟩
  · rw [← List.length_eq_zero_iff, count]
    unfold Window.count
    by_cases zero : size = 0
    · simp [zero]
    · rw [if_neg zero]
      omega
  · intro start inside
    simp only [windowsBy_eq, List.getElem_map, List.getElem_range, List.extract_eq_take_drop,
      Nat.add_sub_cancel_left]
  · intro others first firstMember second secondMember same
    rw [fingerprint_of_mem_windowsBy firstMember, fingerprint_of_mem_windowsBy secondMember, same]

theorem windowsBy_rolling_again :
    (windows 2 [['1'], ['2'], ['1'], ['2']]).length = 3 ∧
      ∀ first ∈ windows 2 [['1'], ['2'], ['1'], ['2']],
        ∀ second ∈ windows 2 [['0'], ['1'], ['2']],
          first.start = 2 → second.start = 1 → first.fingerprint = second.fingerprint := by
  have rolling := windowsBy_rolling tokenHash 2 [['1'], ['2'], ['1'], ['2']]
  refine ⟨rolling.1, ?_⟩
  intro first firstMember second secondMember firstStart secondStart
  apply rolling.2.2.2 [['0'], ['1'], ['2']] first firstMember second secondMember
  rw [firstStart, secondStart]
  rfl

end RepeatScan.Fingerprint
