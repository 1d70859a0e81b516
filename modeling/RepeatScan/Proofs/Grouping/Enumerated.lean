import RepeatScan.Proofs.Bucket.Insertion
import RepeatScan.Proofs.Grouping.Groups
import RepeatScan.Proofs.Retrieval

set_option autoImplicit false

/-! Sources whose windows are listed in full. Their buckets hold each window once, and all windows of
one content stand in the same bucket, whatever else stands there. So when contents are compared, the
groups of the buckets are the classes of equal content among all windows. -/

namespace RepeatScan.Grouping

open Tally (Keyed contents under)

/-- The windows of a size in all sources, source by source. -/
def windowsOf (size : Nat) (sources : List ScannedSource) : List Window :=
  sources.flatMap fun source =>
    (List.range (Window.count source.tokens.length size)).map fun start =>
      ⟨source.index, start, size⟩

/-- The windows that sources list, each with its fingerprint. -/
def prints (size : Nat) (sources : List ScannedSource) : List (Fingerprint × Window) :=
  sources.flatMap fun source =>
    source.windows.map fun window => (window.fingerprint, ⟨source.index, window.start, size⟩)

/-- Sources of different indices that list all their windows, from the first start to the last, with
fingerprints that are equal where the contents are. -/
structure Enumerated (size : Nat) (sources : List ScannedSource) : Prop where
  distinct : (sources.map (·.index)).Nodup
  starts : ∀ source ∈ sources,
    source.windows.map (·.start) = List.range (Window.count source.tokens.length size)
  faithful : ∀ left ∈ prints size sources, ∀ right ∈ prints size sources,
    content? sources left.2 = content? sources right.2 → left.1 = right.1

/-- All windows of some tokens, each with the fingerprint that a function gives to its content. -/
def listing (print : List Token → Fingerprint) (size : Nat) (tokens : TokenStream) :
    List WindowPrint :=
  (List.range (Window.count tokens.length size)).map fun start =>
    ⟨start, print (tokens.slice start (start + size))⟩

variable {size : Nat} {sources : List ScannedSource}

theorem mem_windowsOf {window : Window} :
    window ∈ windowsOf size sources ↔ ∃ source ∈ sources, ∃ start,
      start < Window.count source.tokens.length size ∧ ⟨source.index, start, size⟩ = window := by
  simp only [windowsOf, List.mem_flatMap, List.mem_map, List.mem_range]

theorem size_of_mem_windowsOf {window : Window} (member : window ∈ windowsOf size sources) :
    window.size = size := by
  obtain ⟨source, _, start, _, rfl⟩ := mem_windowsOf.mp member
  rfl

/-! ### Sources by their indices -/

theorem source?_eq_some (distinct : (sources.map (·.index)).Nodup) {source : ScannedSource}
    (member : source ∈ sources) : source? sources source.index = some source := by
  have reversed : (sources.reverse.map (·.index)).Nodup := by
    rw [List.map_reverse]
    exact List.nodup_reverse.mpr distinct
  exact find?_key reversed (List.mem_reverse.mpr member)

theorem content?_eq_some (distinct : (sources.map (·.index)).Nodup) {source : ScannedSource}
    (member : source ∈ sources) (start : Nat) :
    content? sources ⟨source.index, start, size⟩ =
      some (source.tokens.slice start (start + size)) := by
  unfold content?
  rw [source?_eq_some distinct member]
  rfl

theorem nodup_windowsOf (distinct : (sources.map (·.index)).Nodup) :
    (windowsOf size sources).Nodup := by
  apply List.nodup_flatMap.mpr
  constructor
  · intro source _
    refine List.Nodup.map ?_ List.nodup_range
    intro left right same
    exact congrArg Window.start same
  · refine (List.pairwise_map.mp distinct).imp ?_
    intro left right different window first second
    obtain ⟨_, _, rfl⟩ := List.mem_map.mp first
    obtain ⟨_, _, same⟩ := List.mem_map.mp second
    exact different (congrArg Window.source same).symm

theorem pairwise_windowsOf (increasing : (sources.map (·.index)).Pairwise (· < ·)) :
    (windowsOf size sources).Pairwise fun left right => left.precedes right = true := by
  apply List.pairwise_flatMap.mpr
  constructor
  · intro source _
    apply List.pairwise_map.mpr
    refine List.pairwise_lt_range.imp ?_
    intro left right before
    simp [Window.precedes, before]
  · refine (List.pairwise_map.mp increasing).imp ?_
    intro left right before first inLeft second inRight
    obtain ⟨_, _, rfl⟩ := List.mem_map.mp inLeft
    obtain ⟨_, _, rfl⟩ := List.mem_map.mp inRight
    simp [Window.precedes, before]

/-- Sources are enumerated when a function of contents gives the fingerprints. -/
theorem enumerated_of_listing {print : List Token → Fingerprint}
    (distinct : (sources.map (·.index)).Nodup)
    (listed : ∀ source ∈ sources, source.windows = listing print size source.tokens) :
    Enumerated size sources := by
  have printed {item : Fingerprint × Window} (member : item ∈ prints size sources) :
      (content? sources item.2).map print = some item.1 := by
    obtain ⟨source, present, inside⟩ := List.mem_flatMap.mp member
    rw [listed source present, listing, List.map_map] at inside
    obtain ⟨start, _, rfl⟩ := List.mem_map.mp inside
    exact congrArg (Option.map print) (content?_eq_some distinct present start)
  constructor
  · exact distinct
  · intro source present
    rw [listed source present, listing, List.map_map]
    exact List.map_id _
  · intro left leftMember right rightMember same
    apply Option.some.inj
    rw [← printed leftMember, ← printed rightMember, same]

/-! ### The buckets of a tally -/

/-- What sources insert, one after the other. -/
def insertions (sources : List ScannedSource) : List Tally.Insertion :=
  sources.map fun source => ⟨source.index, source.windows⟩

theorem tally_eq_insertAll (size : Nat) (sources : List ScannedSource) :
    tally size sources = Tally.insertAll size (insertions sources) := by
  unfold tally Tally.insertAll insertions
  rw [List.foldl_map]

theorem inserted_insertions (size : Nat) (sources : List ScannedSource) :
    Tally.inserted size (insertions sources) = prints size sources := by
  unfold Tally.inserted insertions prints
  rw [List.flatMap_map]

theorem keyed_tally (size : Nat) (sources : List ScannedSource) :
    Keyed (tally size sources).entries := by
  rw [tally_eq_insertAll]
  exact Tally.keyed_insertAll size _

theorem contents_tally (size : Nat) (sources : List ScannedSource) :
    (contents (tally size sources).entries).Perm (prints size sources) := by
  rw [tally_eq_insertAll, ← inserted_insertions]
  exact Tally.contents_insertAll size _

theorem counted_tally (size : Nat) (sources : List ScannedSource) :
    (tally size sources).counted =
      sources.foldr (fun source total => source.windows.length + total) 0 := by
  rw [tally_eq_insertAll, Tally.counted_insertAll, insertions, List.foldr_map]

theorem mem_fingerprints_tally {fingerprint : Fingerprint} :
    fingerprint ∈ (tally size sources).buckets.map (·.fingerprint) ↔
      fingerprint ∈ (prints size sources).map (·.1) := by
  rw [Tally.buckets, Bucket.mem_fingerprints_ofEntries (keyed_tally size sources),
    ((contents_tally size sources).map _).mem_iff]

theorem nodup_fingerprints_tally (size : Nat) (sources : List ScannedSource) :
    ((tally size sources).buckets.map (·.fingerprint)).Nodup :=
  Bucket.nodup_fingerprints_ofEntries (keyed_tally size sources)

theorem mem_bucket_windows {bucket : Bucket} (member : bucket ∈ (tally size sources).buckets)
    {window : Window} :
    window ∈ bucket.windows ↔ (bucket.fingerprint, window) ∈ prints size sources := by
  rw [(Bucket.mem_ofEntries (keyed_tally size sources)).mp member, List.mem_mergeSort,
    Tally.mem_under, (contents_tally size sources).mem_iff]

theorem pairwise_bucket_windows {bucket : Bucket}
    (member : bucket ∈ (tally size sources).buckets) :
    bucket.windows.Pairwise fun left right => left.precedes right = true := by
  rw [(Bucket.mem_ofEntries (keyed_tally size sources)).mp member]
  exact Window.pairwise_mergeSort _

namespace Enumerated

variable (enumerated : Enumerated size sources)

include enumerated

theorem windows_prints : (prints size sources).map (·.2) = windowsOf size sources := by
  unfold prints windowsOf
  rw [List.map_flatMap]
  apply List.flatMap_congr
  intro source member
  rw [← enumerated.starts source member, List.map_map, List.map_map]
  rfl

/-- The buckets share out the windows. -/
theorem windows_buckets :
    ((tally size sources).buckets.flatMap Bucket.windows).Perm (windowsOf size sources) := by
  rw [← enumerated.windows_prints]
  exact (Bucket.windows_ofEntries_perm (keyed_tally size sources)).trans
    ((contents_tally size sources).map _)

theorem nodup_windows_buckets :
    ((tally size sources).buckets.flatMap Bucket.windows).Nodup :=
  enumerated.windows_buckets.nodup_iff.mpr (nodup_windowsOf enumerated.distinct)

theorem mem_windowsOf_of_bucket {bucket : Bucket}
    (member : bucket ∈ (tally size sources).buckets) {window : Window}
    (inside : window ∈ bucket.windows) : window ∈ windowsOf size sources :=
  enumerated.windows_buckets.mem_iff.mp (List.mem_flatMap.mpr ⟨bucket, member, inside⟩)

theorem exists_bucket {window : Window} (member : window ∈ windowsOf size sources) :
    ∃ bucket ∈ (tally size sources).buckets, window ∈ bucket.windows :=
  List.mem_flatMap.mp (enumerated.windows_buckets.mem_iff.mpr member)

theorem isSome_content? {window : Window} (member : window ∈ windowsOf size sources) :
    (content? sources window).isSome := by
  obtain ⟨source, present, start, _, rfl⟩ := mem_windowsOf.mp member
  rw [content?_eq_some enumerated.distinct present]
  rfl

end Enumerated

end RepeatScan.Grouping
