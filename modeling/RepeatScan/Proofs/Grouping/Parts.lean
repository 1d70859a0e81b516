import Mathlib.Data.List.Nodup
import RepeatScan.Grouping
import RepeatScan.Proofs.Bucket.Order
import RepeatScan.Proofs.Span.Fold

set_option autoImplicit false

/-! From buckets to groups of spans. Every part of a bucket keeps the order of the bucket, a bucket gives
a group for each part with enough spans, and the groups of all buckets stand in the strict order of
their first windows. -/

namespace RepeatScan.Grouping

/-! ### Classes of equal content -/

section Classes

variable {Content : Type} [DecidableEq Content]

private theorem filter_unlike {content other : Content} (different : other ≠ content)
    (entries : List (Window × Content)) :
    ((unlike content entries).filter fun entry => entry.2 = other) =
      entries.filter fun entry => entry.2 = other := by
  unfold unlike
  rw [List.filter_filter]
  apply List.filter_congr
  intro entry _
  by_cases same : entry.2 = other
  · simp [same, different]
  · simp [same]

/-- A class is made of all windows with the content of one of them. -/
theorem mem_classes {entries : List (Window × Content)} {part : Window × List Window} :
    part ∈ classes entries ↔ ∃ entry ∈ entries,
      part.1 :: part.2 = (entries.filter fun other => other.2 = entry.2).map (·.1) := by
  fun_induction classes entries with
  | case1 => simp
  | case2 first content later ih =>
      have own : (((first, content) :: later).filter fun other => other.2 = content).map (·.1) =
          first :: alike content later := by
        rw [List.filter_cons_of_pos (by simp)]
        rfl
      have others {other : Content} (different : other ≠ content) :
          ((first, content) :: later).filter (fun entry => entry.2 = other) =
            (unlike content later).filter fun entry => entry.2 = other := by
        rw [filter_unlike different, List.filter_cons_of_neg]
        simpa using fun same => different same.symm
      rw [List.mem_cons, ih]
      constructor
      · rintro (rfl | ⟨entry, member, same⟩)
        · exact ⟨(first, content), List.mem_cons_self, own.symm⟩
        · obtain ⟨present, kept⟩ := List.mem_filter.mp member
          have different : entry.2 ≠ content := of_decide_eq_true kept
          refine ⟨entry, List.mem_cons_of_mem _ present, ?_⟩
          rw [others different]
          exact same
      · rintro ⟨entry, member, same⟩
        by_cases equal : entry.2 = content
        · rw [equal, own] at same
          obtain ⟨head, tail⟩ := List.cons.inj same
          exact Or.inl (Prod.ext head tail)
        · rw [others equal] at same
          rcases List.mem_cons.mp member with rfl | below
          · exact absurd rfl equal
          · exact Or.inr ⟨entry, List.mem_filter.mpr ⟨below, decide_eq_true equal⟩, same⟩

/-- Windows that all have one content are one class. -/
theorem classes_of_alike {first : Window} {content : Content} {later : List (Window × Content)}
    (alone : ∀ entry ∈ later, entry.2 = content) :
    classes ((first, content) :: later) = [(first, later.map (·.1))] := by
  have others : unlike content later = [] := by
    apply List.filter_eq_nil_iff.mpr
    intro entry member
    simpa using alone entry member
  have own : alike content later = later.map (·.1) := by
    unfold alike
    rw [List.filter_eq_self.mpr fun entry member => decide_eq_true (alone entry member)]
  rw [classes, others, own, classes]

theorem classes_firsts_sublist (entries : List (Window × Content)) :
    ((classes entries).map (·.1)).Sublist (entries.map (·.1)) := by
  fun_induction classes entries with
  | case1 => exact List.Sublist.slnil
  | case2 first content later ih =>
      exact (ih.trans (List.filter_sublist.map _)).cons_cons _

end Classes

variable {sources : List ScannedSource} {options : GroupingOptions} {bucket : Bucket}

/-- The windows of a bucket that have content, each with it. -/
def contentsOf (sources : List ScannedSource) (windows : List Window) :
    List (Window × List Token) :=
  windows.filterMap fun window => (content? sources window).map fun content => (window, content)

private theorem contentsOf_cons (window : Window) (later : List Window) :
    contentsOf sources (window :: later) =
      ((content? sources window).map fun content => (window, content)).toList ++
        contentsOf sources later := by
  unfold contentsOf
  cases found : content? sources window with
  | none => simp [found]
  | some content => simp [found]

theorem contentsOf_windows_sublist (windows : List Window) :
    ((contentsOf sources windows).map (·.1)).Sublist windows := by
  induction windows with
  | nil => exact List.Sublist.slnil
  | cons window later ih =>
      rw [contentsOf_cons]
      cases content? sources window with
      | none => exact ih.cons _
      | some content => exact ih.cons_cons _

theorem mem_contentsOf {windows : List Window} {entry : Window × List Token} :
    entry ∈ contentsOf sources windows ↔
      entry.1 ∈ windows ∧ content? sources entry.1 = some entry.2 := by
  unfold contentsOf
  rw [List.mem_filterMap]
  constructor
  · rintro ⟨window, member, found⟩
    obtain ⟨content, known, rfl⟩ := Option.map_eq_some_iff.mp found
    exact ⟨member, known⟩
  · rintro ⟨member, known⟩
    exact ⟨entry.1, member, Option.map_eq_some_iff.mpr ⟨entry.2, known, rfl⟩⟩

theorem filter_contentsOf (windows : List Window) (content : List Token) :
    ((contentsOf sources windows).filter fun entry => entry.2 = content).map (·.1) =
      windows.filter fun window => content? sources window = some content := by
  induction windows with
  | nil => rfl
  | cons window later ih =>
      rw [contentsOf_cons, List.filter_append, List.map_append, ih]
      cases found : content? sources window with
      | none =>
          rw [List.filter_cons_of_neg (by simp [found])]
          rfl
      | some other =>
          by_cases same : other = content
          · rw [List.filter_cons_of_pos (by simp [found, same])]
            simp [same]
          · rw [List.filter_cons_of_neg (by simp [found, same])]
            simp [same]

theorem contentsOf_of_alike {windows : List Window} {content : List Token}
    (alone : ∀ window ∈ windows, content? sources window = some content) :
    contentsOf sources windows = windows.map fun window => (window, content) := by
  unfold contentsOf
  rw [← List.filterMap_eq_map]
  apply List.filterMap_congr
  intro window member
  rw [alone window member]
  rfl

/-! ### Parts of a bucket -/

/-- When contents are not compared, a bucket has no parts but itself. -/
theorem parts_of_trust (trusting : options.verifyContent = false) :
    parts sources options bucket = [(bucket.first, bucket.others)] := by
  unfold parts
  rw [trusting]
  rfl

/-- A bucket of one content has no parts but itself. -/
theorem parts_of_alike {content : List Token}
    (alone : ∀ window ∈ bucket.windows, content? sources window = some content) :
    parts sources options bucket = [(bucket.first, bucket.others)] := by
  unfold parts
  cases options.verifyContent && !bucket.others.isEmpty with
  | true =>
      change classes (contentsOf sources bucket.windows) = _
      rw [contentsOf_of_alike alone]
      refine (classes_of_alike ?_).trans ?_
      · intro entry member
        obtain ⟨window, _, rfl⟩ := List.mem_map.mp member
        rfl
      · rw [List.map_map]
        exact congrArg (fun others => [(bucket.first, others)]) (List.map_id _)
  | false => rfl

theorem parts_firsts_sublist :
    ((parts sources options bucket).map (·.1)).Sublist bucket.windows := by
  unfold parts
  cases options.verifyContent && !bucket.others.isEmpty with
  | true =>
      rw [if_pos rfl]
      exact (classes_firsts_sublist _).trans (contentsOf_windows_sublist bucket.windows)
  | false => exact (List.nil_sublist _).cons_cons _

theorem sublist_of_mem_parts {part : Window × List Window}
    (member : part ∈ parts sources options bucket) :
    (part.1 :: part.2).Sublist bucket.windows := by
  unfold parts at member
  cases compared : options.verifyContent && !bucket.others.isEmpty with
  | true =>
      rw [compared, if_pos rfl] at member
      obtain ⟨entry, _, same⟩ := mem_classes.mp member
      rw [same]
      exact (List.filter_sublist.map _).trans (contentsOf_windows_sublist bucket.windows)
  | false =>
      rw [compared] at member
      obtain rfl := List.mem_singleton.mp member
      exact List.Sublist.refl _

/-- When contents are compared, the parts of a bucket whose sources are known are its classes. -/
theorem mem_parts_of_verify (verified : options.verifyContent = true)
    (known : ∀ window ∈ bucket.windows, (content? sources window).isSome)
    {part : Window × List Window} :
    part ∈ parts sources options bucket ↔ ∃ window ∈ bucket.windows,
      part.1 :: part.2 = bucket.windows.filter fun other =>
        content? sources other = content? sources window := by
  have classOf : part ∈ classes (contentsOf sources bucket.windows) ↔ ∃ window ∈ bucket.windows,
      part.1 :: part.2 = bucket.windows.filter fun other =>
        content? sources other = content? sources window := by
    rw [mem_classes]
    constructor
    · rintro ⟨entry, member, same⟩
      obtain ⟨present, content⟩ := mem_contentsOf.mp member
      rw [filter_contentsOf] at same
      exact ⟨entry.1, present, by rw [content]; exact same⟩
    · rintro ⟨window, member, same⟩
      obtain ⟨content, found⟩ := Option.isSome_iff_exists.mp (known window member)
      refine ⟨(window, content), mem_contentsOf.mpr ⟨member, found⟩, ?_⟩
      rw [filter_contentsOf, ← found]
      exact same
  rw [← classOf]
  unfold parts
  rw [verified, Bool.true_and]
  cases alone : bucket.others.isEmpty with
  | false => rfl
  | true =>
      obtain ⟨fingerprint, first, others⟩ := bucket
      obtain rfl := List.isEmpty_iff.mp alone
      obtain ⟨content, found⟩ := Option.isSome_iff_exists.mp (known first List.mem_cons_self)
      change part ∈ [(first, [])] ↔ part ∈ classes (contentsOf sources [first])
      have single : contentsOf sources [first] = [(first, content)] := by
        rw [contentsOf_cons, found]
        rfl
      rw [single, classes, unlike, List.filter_nil, classes]
      rfl

end RepeatScan.Grouping
