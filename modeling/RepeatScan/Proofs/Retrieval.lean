import Mathlib.Data.List.Nodup

set_option autoImplicit false

/-! Items that are found again by their keys, and items that are read back one by one from what each of
them is written as. -/

namespace RepeatScan

/-- Where no two items have one key, an item is found by its key. -/
theorem find?_key {Item Key : Type} [DecidableEq Key] {key : Item → Key} {items : List Item}
    (distinct : (items.map key).Nodup) {item : Item} (member : item ∈ items) :
    (items.find? fun other => key other = key item) = some item := by
  cases result : items.find? fun other => key other = key item with
  | none =>
      have absent := List.find?_eq_none.mp result item member
      exact absurd (decide_eq_true rfl) absent
  | some found =>
      have same : key found = key item := by
        simpa using List.find?_some result
      rw [List.inj_on_of_nodup_map distinct (List.mem_of_find?_eq_some result) member same]

theorem mem_of_lookup {Key Item : Type} [BEq Key] [LawfulBEq Key] {entries : List (Key × Item)}
    {key : Key} {item : Item} (found : entries.lookup key = some item) : (key, item) ∈ entries := by
  obtain ⟨before, behind, rfl, -⟩ := List.lookup_eq_some_iff.mp found
  exact List.mem_append_right before List.mem_cons_self

theorem lookup_of_mem {Key Item : Type} [BEq Key] [LawfulBEq Key] {entries : List (Key × Item)}
    (distinct : (entries.map (·.1)).Nodup) {key : Key} {item : Item}
    (listed : (key, item) ∈ entries) : entries.lookup key = some item := by
  obtain ⟨before, behind, rfl⟩ := List.append_of_mem listed
  have fresh : key ∉ before.map (·.1) := by
    rw [List.map_append, List.nodup_append] at distinct
    intro known
    exact distinct.2.2 key known key (by simp) rfl
  refine List.lookup_eq_some_iff.mpr ⟨before, behind, rfl, fun entry member => ?_⟩
  have other : key ≠ entry.1 := by
    rintro rfl
    exact fresh (List.mem_map_of_mem member)
  simpa using other

/-- Items that are each read back from what they are written as are read back as a list. -/
theorem mapM_map_eq_pure {m : Type → Type} [Monad m] [LawfulMonad m] {Item Written : Type}
    {write : Item → Written} {read : Written → m Item} {items : List Item}
    (each : ∀ item ∈ items, read (write item) = pure item) :
    (items.map write).mapM read = pure items := by
  induction items with
  | nil => simp
  | cons item later ih =>
      have rest := ih fun other listed => each other (List.mem_cons_of_mem item listed)
      simp [each item List.mem_cons_self, rest]

end RepeatScan
