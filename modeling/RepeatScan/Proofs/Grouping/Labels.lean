import RepeatScan.Proofs.Grouping.Origins

set_option autoImplicit false

/-! Labels of groups. When contents are compared, a group whose content shares its fingerprint with
no other content keeps that fingerprint as its label, whichever of its windows is looked at. Only
groups of one fingerprint and several contents get labels that tell them apart by their order. -/

namespace RepeatScan.Grouping

variable {size : Nat} {sources : List ScannedSource} {options : GroupingOptions}

/-- No other content has a fingerprint of the window. -/
def Sole (size : Nat) (sources : List ScannedSource) (window : Window) : Prop :=
  ∀ label, (label, window) ∈ prints size sources → ∀ other, (label, other) ∈ prints size sources →
    content? sources other = content? sources window

/-- The window at the start of a span. -/
def opening (size : Nat) (span : Span) : Window :=
  ⟨span.source, span.start, size⟩

theorem opening_mem_of_mem_spans {windows : List Window}
    (uniform : ∀ window ∈ windows, window.size = size) {span : Span}
    (member : span ∈ spans options windows) : opening size span ∈ windows := by
  obtain ⟨window, held, source, start⟩ := (spanned_of_mem_spans member).first
  have same : opening size span = window := by
    rw [opening, ← source, ← start, ← uniform window held]
  rwa [same]

namespace Enumerated

variable (enumerated : Enumerated size sources)

include enumerated

theorem exists_print {window : Window} (listed : window ∈ windowsOf size sources) :
    ∃ label, (label, window) ∈ prints size sources := by
  rw [← enumerated.windows_prints] at listed
  obtain ⟨item, present, rfl⟩ := List.mem_map.mp listed
  exact ⟨item.1, present⟩

/-- Windows of one content are sole together. -/
theorem sole_congr {left right : Window} (listed : left ∈ windowsOf size sources)
    (same : content? sources left = content? sources right) (sole : Sole size sources left) :
    Sole size sources right := by
  intro label printed other shared
  obtain ⟨own, first⟩ := enumerated.exists_print listed
  have equal : own = label := enumerated.faithful _ first _ printed same
  rw [equal] at first
  rw [sole label first other shared, same]

section Compared

variable (verified : options.verifyContent = true) {group : SpanGroup Label}

include verified

-- All windows of the bucket have one content, so its first part is the only one.
private theorem ordinal_eq_zero {bucket : Bucket} (present : bucket ∈ (tally size sources).buckets)
    {part : Window × List Window} {ordinal : Nat}
    (listed : (part, ordinal) ∈ (parts sources options bucket).zipIdx)
    (sole : Sole size sources part.1) : ordinal = 0 := by
  have stands : (parts sources options bucket)[ordinal]? = some part :=
    List.mem_zipIdx_iff_getElem?.mp listed
  have member := List.mem_of_getElem? stands
  have printed {window : Window} (inside : window ∈ bucket.windows) :=
    (mem_bucket_windows present).mp inside
  have kind {other : Window × List Window} (inside : other ∈ parts sources options bucket) :
      other.1 :: other.2 = kindOf size sources part.1 := by
    obtain ⟨window, held, whole⟩ := (enumerated.mem_parts_bucket verified present).mp inside
    have first := printed ((sublist_of_mem_parts member).subset List.mem_cons_self)
    rw [whole, kindOf_congr (sole _ first window (printed held))]
  have bound := (List.getElem?_eq_some_iff.mp stands).1
  have positive : 0 < (parts sources options bucket).length := Nat.zero_lt_of_lt bound
  have first := (kind (List.getElem_mem positive)).trans (kind member).symm
  have distinct : ((parts sources options bucket).map (·.1)).Nodup :=
    parts_firsts_sublist.nodup ((List.nodup_flatMap.mp enumerated.nodup_windows_buckets).1 bucket
      present)
  apply (List.getElem?_inj (by rwa [List.length_map]) distinct).mp
  rw [List.getElem?_map, List.getElem?_map, stands, List.getElem?_eq_getElem positive,
    Option.map_some, Option.map_some, (List.cons.inj first).1]

/-- A span of a group starts with a window that has the content of the group's first one. -/
theorem content?_opening (member : group ∈ orderedGroups sources options (tally size sources).buckets)
    {span : Span} (inside : span ∈ group.spans) :
    opening size span ∈ windowsOf size sources ∧
      content? sources (opening size span) = content? sources group.key.first := by
  obtain ⟨bucket, present, produced⟩ := mem_orderedGroups.mp member
  obtain ⟨part, ordinal, listed, _, rfl⟩ := mem_bucketGroups.mp produced
  have isPart : IsPart sources options (tally size sources).buckets (part.1 :: part.2) :=
    ⟨bucket, present, part, List.fst_mem_of_mem_zipIdx listed, rfl⟩
  have held := opening_mem_of_mem_spans
    (fun window present => size_of_mem_windowsOf (enumerated.mem_windowsOf_of_isPart isPart present))
    inside
  exact ⟨enumerated.mem_windowsOf_of_isPart isPart held,
    enumerated.content?_of_isPart isPart verified held List.mem_cons_self⟩

/-- The label of a sole content is its fingerprint. -/
theorem label_of_sole (member : group ∈ orderedGroups sources options (tally size sources).buckets)
    (sole : Sole size sources group.key.first) :
    (group.key.fingerprint, group.key.first) ∈ prints size sources := by
  obtain ⟨bucket, present, produced⟩ := mem_orderedGroups.mp member
  obtain ⟨part, ordinal, listed, _, rfl⟩ := mem_bucketGroups.mp produced
  obtain rfl := enumerated.ordinal_eq_zero verified present listed sole
  have inside := sublist_of_mem_parts (List.fst_mem_of_mem_zipIdx listed)
  exact (mem_bucket_windows present).mp (inside.subset List.mem_cons_self)

/-- Any window with which a span of a reported group starts has the label of the group for its
fingerprint, if its content is sole. -/
theorem label_of_sole_opening
    (member : group ∈ spanGroups sources options (tally size sources).buckets) {span : Span}
    (inside : span ∈ group.spans) (sole : Sole size sources (opening size span)) :
    (group.key.fingerprint, opening size span) ∈ prints size sources := by
  obtain ⟨ordered, present, growth, rfl⟩ := exists_of_mem_spanGroups member
  obtain ⟨short, listed, rfl⟩ := List.mem_map.mp inside
  obtain ⟨known, same⟩ := enumerated.content?_opening verified present listed
  have first := enumerated.label_of_sole verified present (enumerated.sole_congr known same sole)
  obtain ⟨label, printed⟩ := enumerated.exists_print known
  have equal : label = ordered.key.fingerprint := enumerated.faithful _ printed _ first same
  rw [equal] at printed
  exact printed

end Compared

end Enumerated

end RepeatScan.Grouping
