import RepeatScan.Proofs.Bucket.Insertion
import RepeatScan.Proofs.Bucket.Interleaving

set_option autoImplicit false

/-! No window is lost and none is counted twice. Whatever was inserted and in whatever order a map
hands its entries out, there is one bucket for every fingerprint that was inserted, it holds every
window as often as that one was inserted, and the buckets together are as long as all that was
inserted. -/

namespace RepeatScan

namespace Bucket

/-- One bucket goes before another: by first window, or by fingerprint where that is the same. -/
def Before (left right : Bucket) : Prop :=
  left.first.Before right.first ∨
    left.first = right.first ∧ left.fingerprint.word.toNat < right.fingerprint.word.toNat

theorem before_of_precedes {left right : Bucket} (precedes : left.precedes right = true)
    (different : left.fingerprint ≠ right.fingerprint) : left.Before right := by
  by_cases same : left.first = right.first
  · refine Or.inr ⟨same, ?_⟩
    rw [Bucket.precedes, if_pos same, Fingerprint.precedes, decide_eq_true_eq] at precedes
    apply Nat.lt_of_le_of_ne precedes
    intro words
    exact different (congrArg Fingerprint.mk (BitVec.eq_of_toNat_eq words))
  · rw [Bucket.precedes, if_neg same] at precedes
    exact Or.inl ⟨precedes, same⟩

end Bucket

namespace Tally

/-- Buckets that hold what was inserted: one for each fingerprint, each with all windows of it and
with these only, as often as they were inserted and in order. -/
structure Conserves (size : Nat) (insertions : List Insertion) (buckets : List Bucket) : Prop where
  distinct : (buckets.map (·.fingerprint)).Nodup
  complete : ∀ fingerprint, fingerprint ∈ buckets.map (·.fingerprint) ↔
    ∃ insertion ∈ insertions, ∃ window ∈ insertion.windows, window.fingerprint = fingerprint
  inhabited : ∀ bucket ∈ buckets, bucket.windows ≠ []
  uniform : ∀ bucket ∈ buckets, ∀ window ∈ bucket.windows, window.size = size
  held : ∀ bucket ∈ buckets, ∀ source start, bucket.windows.count ⟨source, start, size⟩ =
    (insertedFor source insertions).count ⟨start, bucket.fingerprint⟩
  sorted : ∀ bucket ∈ buckets,
    bucket.windows.Pairwise fun left right => left.precedes right = true
  increasing : buckets.Pairwise Bucket.Before

theorem count_under (fingerprint : Fingerprint) (window : Window)
    (items : List (Fingerprint × Window)) :
    (under fingerprint items).count window = items.count (fingerprint, window) := by
  induction items with
  | nil => rfl
  | cons item later ih =>
      obtain ⟨known, other⟩ := item
      rw [List.count_cons, ← ih, under]
      by_cases same : known = fingerprint
      · rw [List.filter_cons_of_pos (by simpa using same), List.map_cons, List.count_cons, ← under]
        simp [same]
      · rw [List.filter_cons_of_neg (by simpa using same), ← under]
        simp [same]

section Handed

variable {size : Nat} {insertions : List Insertion} {handed : Tally}
  (given : HandsOut (insertAll size insertions) handed)

include given

theorem keyed_of_handsOut : Keyed handed.entries :=
  (keyed_insertAll size insertions).perm given.entries.symm

theorem contents_of_handsOut : (contents handed.entries).Perm (inserted size insertions) :=
  (contents_perm given.entries).trans (contents_insertAll size insertions)

theorem windows_of_handsOut {bucket : Bucket} (member : bucket ∈ handed.buckets) :
    bucket.windows.Perm (under bucket.fingerprint (inserted size insertions)) := by
  rw [(Bucket.mem_ofEntries (keyed_of_handsOut given)).mp member]
  exact (List.mergeSort_perm _ _).trans
    (under_perm (contents_of_handsOut given) bucket.fingerprint)

theorem conserves_of_handsOut : Conserves size insertions handed.buckets where
  distinct := Bucket.nodup_fingerprints_ofEntries (keyed_of_handsOut given)
  complete := by
    intro fingerprint
    rw [buckets, Bucket.mem_fingerprints_ofEntries (keyed_of_handsOut given),
      ((contents_of_handsOut given).map _).mem_iff, inserted, List.map_flatMap]
    simp only [List.map_map, List.mem_flatMap, List.mem_map, Function.comp_apply]
  inhabited := fun bucket _ => bucket.windows_ne_nil
  uniform := by
    intro bucket member window inside
    have listed := mem_under.mp ((windows_of_handsOut given member).mem_iff.mp inside)
    obtain ⟨insertion, _, printed⟩ := List.mem_flatMap.mp listed
    obtain ⟨_, _, same⟩ := List.mem_map.mp printed
    rw [← (Prod.mk.inj same).2]
  held := by
    intro bucket member source start
    rw [(windows_of_handsOut given member).count_eq, count_under, count_inserted]
  sorted := by
    intro bucket member
    rw [(Bucket.mem_ofEntries (keyed_of_handsOut given)).mp member]
    exact Window.pairwise_mergeSort _
  increasing := by
    have distinct := Bucket.nodup_fingerprints_ofEntries (keyed_of_handsOut given)
    exact ((Bucket.pairwise_ofEntries handed.entries).and (List.pairwise_map.mp distinct)).imp
      fun both => Bucket.before_of_precedes both.1 both.2

theorem counted_of_handsOut : handed.counted =
    insertions.foldr (fun insertion total => insertion.windows.length + total) 0 :=
  given.counted.trans (counted_insertAll size insertions)

/-- The buckets together are as long as all that was inserted. -/
theorem counted_eq_length_buckets : handed.counted =
    handed.buckets.foldr (fun bucket total => bucket.windows.length + total) 0 := by
  have held := (Bucket.windows_ofEntries_perm (keyed_of_handsOut given)).length_eq
  rw [List.length_map, (contents_of_handsOut given).length_eq, inserted, List.length_flatMap,
    List.length_flatMap, List.sum_eq_foldr, List.sum_eq_foldr, List.foldr_map,
    List.foldr_map] at held
  rw [counted_of_handsOut given, buckets, held]
  simp only [List.length_map]

end Handed

end Tally

end RepeatScan
