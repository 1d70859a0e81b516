import Mathlib.Data.List.Sort
import RepeatScan.Proofs.Bucket.Contents

set_option autoImplicit false

/-! The order of windows and buckets. Both orders decide between any two items that can meet in one
list, so the buckets of some entries depend on nothing but the windows that the entries hold. -/

namespace RepeatScan

namespace Window

theorem pairwise_mergeSort (windows : List Window) :
    (windows.mergeSort precedes).Pairwise fun left right => left.precedes right = true := by
  apply List.pairwise_mergeSort
  · exact fun _ _ _ => precedes_trans
  · exact precedes_total

theorem eq_of_perm_of_pairwise {left right : List Window} (same : left.Perm right)
    (leftOrder : left.Pairwise fun earlier later => earlier.precedes later = true)
    (rightOrder : right.Pairwise fun earlier later => earlier.precedes later = true) :
    left = right :=
  List.Perm.eq_of_pairwise (fun _ _ _ _ forward backward => precedes_antisymm forward backward)
    leftOrder rightOrder same

theorem mergeSort_eq_of_perm {left right : List Window} (same : left.Perm right) :
    left.mergeSort precedes = right.mergeSort precedes :=
  eq_of_perm_of_pairwise
    ((List.mergeSort_perm _ _).trans (same.trans (List.mergeSort_perm _ _).symm))
    (pairwise_mergeSort left) (pairwise_mergeSort right)

/-- One window goes before another, different one. -/
def Before (left right : Window) : Prop :=
  left.precedes right = true ∧ left ≠ right

theorem Before.irrefl (window : Window) : ¬window.Before window :=
  fun before => before.2 rfl

theorem Before.asymm {left right : Window} (forward : left.Before right) : ¬right.Before left :=
  fun backward => forward.2 (precedes_antisymm forward.1 backward.1)

theorem Before.source_or_start {left right : Window} (before : left.Before right)
    (same : left.size = right.size) :
    left.source < right.source ∨ left.source = right.source ∧ left.start < right.start := by
  obtain ⟨precedes, different⟩ := before
  cases left
  cases right
  simp only [Window.precedes, Bool.or_eq_true, Bool.and_eq_true, decide_eq_true_eq,
    beq_iff_eq] at precedes
  simp only [ne_eq, mk.injEq] at different same ⊢
  omega

theorem pairwise_before {windows : List Window} (distinct : windows.Nodup)
    (ordered : windows.Pairwise fun left right => left.precedes right = true) :
    windows.Pairwise Before :=
  ordered.and distinct

/-- Two lists with the same members are equal when both are strictly ordered by a window of each. -/
theorem eq_of_mem_iff {Item : Type} (key : Item → Window) {left right : List Item}
    (leftIncreasing : left.Pairwise fun first second => (key first).Before (key second))
    (rightIncreasing : right.Pairwise fun first second => (key first).Before (key second))
    (members : ∀ item, item ∈ left ↔ item ∈ right) : left = right := by
  have : Std.Irrefl fun first second : Item => (key first).Before (key second) :=
    ⟨fun item => Before.irrefl (key item)⟩
  have : Std.Antisymm fun first second : Item => (key first).Before (key second) :=
    ⟨fun _ _ forward backward => absurd backward forward.asymm⟩
  exact leftIncreasing.eq_of_mem_iff rightIncreasing members

end Window

namespace Fingerprint

theorem precedes_antisymm {left right : Fingerprint} (forward : left.precedes right = true)
    (backward : right.precedes left = true) : left = right := by
  cases left
  cases right
  simp only [precedes, decide_eq_true_eq] at forward backward
  rw [BitVec.eq_of_toNat_eq (Nat.le_antisymm forward backward)]

end Fingerprint

namespace Bucket

open Tally (Keyed contents under)

theorem precedes_trans {first second third : Bucket} (left : first.precedes second = true)
    (right : second.precedes third = true) : first.precedes third = true := by
  by_cases start : first.first = second.first
  · by_cases next : second.first = third.first
    · simp only [precedes, if_pos start, if_pos next, if_pos (start.trans next),
        Fingerprint.precedes, decide_eq_true_eq] at left right ⊢
      exact Nat.le_trans left right
    · have apart : first.first ≠ third.first := fun same => next (start.symm.trans same)
      simp only [precedes, if_neg next, if_neg apart] at right ⊢
      rw [start]
      exact right
  · by_cases next : second.first = third.first
    · have apart : first.first ≠ third.first := fun same => start (same.trans next.symm)
      simp only [precedes, if_neg start, if_neg apart] at left ⊢
      rw [← next]
      exact left
    · simp only [precedes, if_neg start, if_neg next] at left right
      have apart : first.first ≠ third.first := by
        intro same
        rw [same] at left
        exact next (Window.precedes_antisymm right left)
      simp only [precedes, if_neg apart]
      exact Window.precedes_trans left right

theorem precedes_total (left right : Bucket) :
    (left.precedes right || right.precedes left) = true := by
  by_cases same : left.first = right.first
  · simp only [precedes, if_pos same, if_pos same.symm, Fingerprint.precedes, Bool.or_eq_true,
      decide_eq_true_eq]
    exact Nat.le_total _ _
  · have other : right.first ≠ left.first := fun equal => same equal.symm
    simp only [precedes, if_neg same, if_neg other]
    exact Window.precedes_total _ _

theorem fingerprint_eq_of_precedes {left right : Bucket} (forward : left.precedes right = true)
    (backward : right.precedes left = true) : left.fingerprint = right.fingerprint := by
  by_cases same : left.first = right.first
  · simp only [precedes, if_pos same, if_pos same.symm] at forward backward
    exact Fingerprint.precedes_antisymm forward backward
  · have other : right.first ≠ left.first := fun equal => same equal.symm
    simp only [precedes, if_neg same, if_neg other] at forward backward
    exact absurd (Window.precedes_antisymm forward backward) same

theorem windows_ne_nil (bucket : Bucket) : bucket.windows ≠ [] :=
  List.cons_ne_nil _ _

theorem ext_windows {left right : Bucket} (fingerprint : left.fingerprint = right.fingerprint)
    (windows : left.windows = right.windows) : left = right := by
  cases left
  cases right
  obtain ⟨first, others⟩ := List.cons.inj windows
  simp only [mk.injEq]
  exact ⟨fingerprint, first, others⟩

theorem ofWindows?_eq_some {fingerprint : Fingerprint} {windows : List Window} {bucket : Bucket} :
    ofWindows? fingerprint windows = some bucket ↔
      bucket.fingerprint = fingerprint ∧ bucket.windows = windows.mergeSort Window.precedes := by
  unfold ofWindows?
  cases sorted : windows.mergeSort Window.precedes with
  | nil =>
      constructor
      · intro impossible
        cases impossible
      · rintro ⟨_, empty⟩
        exact absurd empty bucket.windows_ne_nil
  | cons first others =>
      constructor
      · intro found
        obtain rfl := Option.some.inj found
        exact ⟨rfl, rfl⟩
      · rintro ⟨rfl, same⟩
        exact congrArg some (ext_windows rfl same.symm)

theorem ofWindows?_eq_none {fingerprint : Fingerprint} {windows : List Window} :
    ofWindows? fingerprint windows = none ↔ windows = [] := by
  have sizes := (List.mergeSort_perm windows Window.precedes).length_eq
  unfold ofWindows?
  cases sorted : windows.mergeSort Window.precedes with
  | nil =>
      rw [sorted] at sizes
      exact ⟨fun _ => List.eq_nil_of_length_eq_zero sizes.symm, fun _ => rfl⟩
  | cons first others =>
      constructor
      · intro impossible
        cases impossible
      · rintro rfl
        rw [sorted] at sizes
        cases sizes

variable {entries : List (Fingerprint × List Window)}

/-- The buckets of some entries are, for every fingerprint with windows, its windows in order. -/
theorem mem_ofEntries (keyed : Keyed entries) {bucket : Bucket} :
    bucket ∈ ofEntries entries ↔
      bucket.windows = (under bucket.fingerprint (contents entries)).mergeSort Window.precedes := by
  rw [ofEntries, List.mem_mergeSort, List.mem_filterMap]
  constructor
  · rintro ⟨⟨fingerprint, windows⟩, present, found⟩
    obtain ⟨rfl, same⟩ := ofWindows?_eq_some.mp found
    rw [Tally.under_contents keyed.distinct present]
    exact same
  · intro same
    have inhabited : under bucket.fingerprint (contents entries) ≠ [] := by
      intro empty
      rw [empty, List.mergeSort_nil] at same
      exact bucket.windows_ne_nil same
    exact ⟨_, Tally.mem_entries_of_under_ne_nil keyed.distinct inhabited,
      ofWindows?_eq_some.mpr ⟨rfl, same⟩⟩

/-- There is a bucket for every fingerprint of the entries. -/
theorem mem_fingerprints_ofEntries (keyed : Keyed entries) {fingerprint : Fingerprint} :
    fingerprint ∈ (ofEntries entries).map (·.fingerprint) ↔
      fingerprint ∈ (contents entries).map (·.1) := by
  constructor
  · intro listed
    obtain ⟨bucket, present, rfl⟩ := List.mem_map.mp listed
    have windows := (mem_ofEntries keyed).mp present
    have held : bucket.first ∈ bucket.windows := List.mem_cons_self
    rw [windows, List.mem_mergeSort, Tally.mem_under] at held
    exact List.mem_map.mpr ⟨_, held, rfl⟩
  · intro listed
    obtain ⟨item, held, rfl⟩ := List.mem_map.mp listed
    have inhabited : under item.1 (contents entries) ≠ [] :=
      List.ne_nil_of_mem (Tally.mem_under.mpr held)
    cases found : ofWindows? item.1 (under item.1 (contents entries)) with
    | none => exact absurd (ofWindows?_eq_none.mp found) inhabited
    | some bucket =>
        obtain ⟨same, windows⟩ := ofWindows?_eq_some.mp found
        refine List.mem_map.mpr ⟨bucket, (mem_ofEntries keyed).mpr ?_, same⟩
        rw [windows, same]

/-- No two buckets of some entries share a fingerprint. -/
theorem nodup_fingerprints_ofEntries (keyed : Keyed entries) :
    ((ofEntries entries).map (·.fingerprint)).Nodup := by
  have sublist : ((entries.filterMap fun entry => ofWindows? entry.1 entry.2).map
      (·.fingerprint)).Sublist (entries.map (·.1)) := by
    clear keyed
    induction entries with
    | nil => exact List.Sublist.slnil
    | cons entry later ih =>
        cases found : ofWindows? entry.1 entry.2 with
        | none =>
            simp only [List.filterMap_cons, found, List.map_cons]
            exact ih.cons _
        | some bucket =>
            simp only [List.filterMap_cons, found, List.map_cons]
            rw [(ofWindows?_eq_some.mp found).1]
            exact ih.cons_cons _
  exact ((List.mergeSort_perm _ _).map _).nodup_iff.mpr (sublist.nodup keyed.distinct)

theorem pairwise_ofEntries (entries : List (Fingerprint × List Window)) :
    (ofEntries entries).Pairwise fun left right => left.precedes right = true := by
  apply List.pairwise_mergeSort
  · exact fun _ _ _ => precedes_trans
  · exact precedes_total

/-- Entries that hold the same windows give the same buckets, however they came together. -/
theorem ofEntries_eq_of_perm {left right : List (Fingerprint × List Window)}
    (leftKeyed : Keyed left) (rightKeyed : Keyed right)
    (same : (contents left).Perm (contents right)) : ofEntries left = ofEntries right := by
  have members (bucket : Bucket) : bucket ∈ ofEntries left ↔ bucket ∈ ofEntries right := by
    rw [mem_ofEntries leftKeyed, mem_ofEntries rightKeyed,
      Window.mergeSort_eq_of_perm (Tally.under_perm same bucket.fingerprint)]
  have perm : (ofEntries left).Perm (ofEntries right) :=
    (List.perm_ext_iff_of_nodup (nodup_fingerprints_ofEntries leftKeyed).of_map
      (nodup_fingerprints_ofEntries rightKeyed).of_map).mpr members
  refine List.Perm.eq_of_pairwise ?_ (pairwise_ofEntries left) (pairwise_ofEntries right) perm
  intro first second firstMember secondMember forward backward
  have fingerprint := fingerprint_eq_of_precedes forward backward
  apply ext_windows fingerprint
  rw [(mem_ofEntries rightKeyed).mp secondMember, ← fingerprint]
  exact (mem_ofEntries rightKeyed).mp ((members first).mp firstMember)

/-- Together the buckets hold every window of the entries, as often as these do. -/
theorem windows_ofEntries_perm (keyed : Keyed entries) :
    ((ofEntries entries).flatMap windows).Perm ((contents entries).map (·.2)) := by
  refine ((List.mergeSort_perm _ _).flatMap_right _).trans ?_
  have inhabited := keyed.inhabited
  clear keyed
  induction entries with
  | nil => exact List.Perm.refl _
  | cons entry later ih =>
      obtain ⟨fingerprint, held⟩ := entry
      have rest := ih fun entry member => inhabited entry (List.mem_cons_of_mem _ member)
      rw [Tally.contents_cons, List.map_append, List.map_map]
      change List.Perm _ (held.map id ++ _)
      rw [List.map_id]
      cases found : ofWindows? fingerprint held with
      | none =>
          exact absurd (ofWindows?_eq_none.mp found) (inhabited _ List.mem_cons_self)
      | some bucket =>
          simp only [List.filterMap_cons, found, List.flatMap_cons]
          rw [(ofWindows?_eq_some.mp found).2]
          exact (List.mergeSort_perm held _).append rest

end Bucket

end RepeatScan
