import Mathlib.Data.Fin.Basic
import Mathlib.Data.List.FinRange
import RepeatScan.Proofs.Detection.Reported
import RepeatScan.Proofs.Detection.Skipping
import RepeatScan.Proofs.Grouping.Shuffling

set_option autoImplicit false

/-! The order of the input. When contents are compared, the order in which a run is given its
sources decides only the order of what it reports: it finds the same groups with the same
occurrences, and it counts the same. -/

namespace RepeatScan.Detection

/-- Items in another order, each at the position to which a permutation moves it. -/
def shuffle {Item : Type} (items : List Item) (order : Equiv.Perm (Fin items.length)) : List Item :=
  List.ofFn fun position => items[order.symm position]

/-- Where a permutation of the first positions moves any position. -/
def moves {count : Nat} (order : Equiv.Perm (Fin count)) : Equiv.Perm Nat :=
  order.extendDomain Fin.equivSubtype

section Items

variable {Item : Type} (items : List Item) (order : Equiv.Perm (Fin items.length))

theorem shuffle_perm : (shuffle items order).Perm items := by
  have moved := Equiv.Perm.ofFn_comp_perm order.symm items.get
  rwa [List.ofFn_get] at moved

theorem getElem?_shuffle (position : Nat) :
    (shuffle items order)[moves order position]? = items[position]? := by
  by_cases inside : position < items.length
  · have moved : moves order position = order ⟨position, inside⟩ :=
      Equiv.Perm.extendDomain_apply_subtype order Fin.equivSubtype inside
    rw [moved, shuffle, List.getElem?_ofFn, dif_pos (order ⟨position, inside⟩).isLt]
    simp [List.getElem?_eq_getElem inside]
  · have moved : moves order position = position :=
      Equiv.Perm.extendDomain_apply_not_subtype order Fin.equivSubtype inside
    rw [moved, List.getElem?_eq_none (Nat.le_of_not_lt inside),
      List.getElem?_eq_none (by rw [(shuffle_perm items order).length_eq]; omega)]

end Items

/-! ### What a run finds -/

variable {surroundings : Surroundings} {settings : Settings} {mask : Mask} {sources : List Source}

/-- The second group has the occurrences of the first one, with their sources at other positions.
They have one label unless the tokens with which they start share their fingerprint with others. -/
structure SameGroup (size : Nat) (found : List ScannedSource) (place : Nat → Nat)
    (first second : Located) : Prop where
  occurrences : second.occurrences.Perm (first.occurrences.map (Prod.map place id))
  label : ∀ entry ∈ first.occurrences,
    Grouping.Sole size found ⟨entry.1, entry.2.start, size⟩ →
      second.fingerprint = first.fingerprint

/-- The readable sources of a run move with the sources. -/
theorem shuffled_readable (sources : List Source) (order : Equiv.Perm (Fin sources.length)) :
    Grouping.Shuffled (moves order) settings.windowSize
      (readable surroundings settings mask sources)
      (readable surroundings settings mask (shuffle sources order)) := by
  have left := enumerated_readable surroundings settings mask sources
  have right := enumerated_readable surroundings settings mask (shuffle sources order)
  refine ⟨left, right, ?_⟩
  apply (List.perm_ext_iff_of_nodup right.distinct.of_map
    (left.renumber (moves order).injective).distinct.of_map).mpr
  intro found
  rw [List.mem_map]
  constructor
  · intro member
    obtain ⟨⟨given, index⟩, listed, result⟩ := mem_readable.mp member
    obtain ⟨position, rfl⟩ := (moves order).surjective index
    obtain ⟨text, loaded, rfl⟩ := scan_eq_ok_iff.mp result
    have stands := List.mem_zipIdx_iff_getElem?.mp listed
    rw [getElem?_shuffle] at stands
    exact ⟨_, mem_readable.mpr ⟨(given, position), List.mem_zipIdx_iff_getElem?.mpr stands,
      scan_eq_ok_iff.mpr ⟨text, loaded, rfl⟩⟩, rfl⟩
  · intro listed
    obtain ⟨original, member, rfl⟩ := listed
    obtain ⟨⟨given, index⟩, stands, result⟩ := mem_readable.mp member
    obtain ⟨text, loaded, rfl⟩ := scan_eq_ok_iff.mp result
    have moved := List.mem_zipIdx_iff_getElem?.mp stands
    rw [← getElem?_shuffle sources order] at moved
    exact mem_readable.mpr ⟨(given, moves order index), List.mem_zipIdx_iff_getElem?.mpr moved,
      scan_eq_ok_iff.mpr ⟨text, loaded, rfl⟩⟩

theorem rel_located (verified : settings.verifyContent = true) (sources : List Source)
    (order : Equiv.Perm (Fin sources.length)) :
    Multiset.Rel
      (SameGroup settings.windowSize (readable surroundings settings mask sources) (moves order))
      (located surroundings settings mask sources)
      (located surroundings settings mask (shuffle sources order)) := by
  have shuffled := @shuffled_readable surroundings settings mask sources order
  have compared : (groupingOptions settings).verifyContent = true := verified
  unfold located
  rw [buckets_tally, buckets_tally, ← Multiset.map_coe, ← Multiset.map_coe, Multiset.rel_map]
  refine (shuffled.rel_spanGroups compared).mono ?_
  intro group _ other _ same
  obtain ⟨matched, label⟩ := same
  constructor
  · refine (matched.filterMap _).trans (List.Perm.of_eq ?_)
    rw [Span.renumberAll, List.filterMap_map, List.map_filterMap]
    apply List.filterMap_congr
    intro span _
    rw [Function.comp_apply, shuffled.occurrence?_eq, Option.map_map]
    rfl
  · intro entry listed
    obtain ⟨span, inside, found⟩ := List.mem_filterMap.mp listed
    obtain ⟨occurrence, resolved, rfl⟩ := Option.map_eq_some_iff.mp found
    obtain ⟨source, _, rfl⟩ := Option.map_eq_some_iff.mp resolved
    exact label span inside

theorem statistics_conclusion (verified : settings.verifyContent = true) (sources : List Source)
    (order : Equiv.Perm (Fin sources.length)) :
    (conclusion tally surroundings settings mask (shuffle sources order)).statistics =
      (conclusion tally surroundings settings mask sources).statistics := by
  have shuffled := @shuffled_readable surroundings settings mask sources order
  have counted (found : List ScannedSource) := agrees_tally settings found
  unfold conclusion conclude
  rw [Statistics.mk.injEq]
  refine ⟨?given, ?analyzed, ?skipped, ?tokens, ?windows, ?fingerprints, ?groups, rfl, rfl⟩
  case given =>
    rw [scanAll, scanAll, List.length_map, List.length_map, List.length_zipIdx, List.length_zipIdx]
    exact (shuffle_perm sources order).length_eq
  case analyzed =>
    have lengths := shuffled.moved.length_eq
    rwa [List.length_map] at lengths
  case skipped =>
    rw [diagnostics_scanAll, diagnostics_scanAll]
    exact ((shuffle_perm sources order).filterMap _).length_eq
  case tokens => exact shuffled.total_eq (·.tokens.length) fun _ => rfl
  case windows =>
    rw [(counted _).2, (counted _).2]
    exact shuffled.counted_eq
  case fingerprints =>
    rw [(counted _).1, (counted _).1]
    exact shuffled.length_buckets_eq
  case groups =>
    have lengths := (Multiset.card_eq_card_of_rel
      (@rel_located surroundings settings mask verified sources order)).symm
    rw [Multiset.coe_card, Multiset.coe_card, located, located, List.length_map,
      List.length_map] at lengths
    rw [Grouping.report, Grouping.report, List.length_map, List.length_map]
    exact lengths

/-- With contents compared, runs over the same sources in two orders find the same groups: each
group of the first run is one group of the second, with the same occurrences in the same sources and
with the same label, unless its fingerprint stands for several contents. What the runs count is
equal. -/
theorem shuffled_run [Platform] (settings : CheckedSettings)
    (verified : settings.verifyContent = true) (order : Equiv.Perm (Fin sources.length)) :
    ∃ first second, run surroundings settings sources false = .ok first ∧
      run surroundings settings (shuffle sources order) false = .ok second ∧
        Locates sources (located surroundings settings settings.mask sources) first.report ∧
        Locates (shuffle sources order)
          (located surroundings settings settings.mask (shuffle sources order)) second.report ∧
        Multiset.Rel
          (SameGroup settings.windowSize (readable surroundings settings settings.mask sources)
            (moves order))
          (located surroundings settings settings.mask sources)
          (located surroundings settings settings.mask (shuffle sources order)) ∧
        second.diagnostics.Perm first.diagnostics ∧ second.statistics = first.statistics := by
  refine ⟨_, _, runBy_of_valid tally settings, runBy_of_valid tally settings,
    locates_conclusion _ _ _ _, locates_conclusion _ _ _ _, rel_located verified sources order, ?_,
    statistics_conclusion verified sources order⟩
  change (diagnostics (scanAll _ _ _ _)).Perm (diagnostics (scanAll _ _ _ _))
  rw [diagnostics_scanAll, diagnostics_scanAll]
  exact (shuffle_perm sources order).filterMap _

def swapped : Equiv.Perm (Fin twoTexts.length) :=
  Equiv.swap ⟨0, by decide⟩ ⟨1, by decide⟩

theorem shuffle_swapped : shuffle twoTexts swapped = twoTexts.reverse := by
  decide +kernel

theorem shuffled_run_twoTexts :
    ∃ first second, run noFiles lonely twoTexts false = .ok first ∧
      run noFiles lonely twoTexts.reverse false = .ok second ∧
        Multiset.Rel (SameGroup 1 (readable noFiles lonely Mask.standard twoTexts) (moves swapped))
          (located noFiles lonely Mask.standard twoTexts)
          (located noFiles lonely Mask.standard twoTexts.reverse) ∧
        second.report.groups.length = first.report.groups.length ∧
        second.statistics = first.statistics := by
  obtain ⟨first, second, ran, again, placed, moved, related, _, statistics⟩ :=
    @shuffled_run noFiles twoTexts _ ⟨lonely, Mask.standard, rfl, rfl⟩ rfl swapped
  rw [shuffle_swapped] at again moved related
  refine ⟨first, second, ran, again, related, ?_, statistics⟩
  have lengths := Multiset.card_eq_card_of_rel related
  rw [placed.groups, moved.groups, List.length_map, List.length_map]
  exact lengths.symm

end RepeatScan.Detection
