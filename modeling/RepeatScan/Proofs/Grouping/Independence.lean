import RepeatScan.Fingerprint.Rolling
import RepeatScan.Proofs.Grouping.Kinds

set_option autoImplicit false

/-! Fingerprints do not show. When contents are compared, sources that differ in nothing but the
fingerprints of their windows have groups with the same spans and reports with the same occurrences.
All that is asked of fingerprints is that windows with the same tokens get the same one. -/

namespace RepeatScan

/-- A source without its windows. -/
def ScannedSource.blank (source : ScannedSource) : ScannedSource :=
  { source with windows := [] }

/-- A source with other fingerprints. -/
def ScannedSource.reprint (print : List Token → Fingerprint) (size : Nat)
    (source : ScannedSource) : ScannedSource :=
  { source with windows := Grouping.listing print size source.tokens }

/-- A source whose windows carry the fingerprints that are assigned to them. -/
def ScannedSource.assign (print : Window → Fingerprint) (size : Nat) (source : ScannedSource) :
    ScannedSource :=
  { source with
    windows := source.windows.map fun window =>
      ⟨window.start, print ⟨source.index, window.start, size⟩⟩ }

namespace Grouping

variable {size : Nat} {sources left right : List ScannedSource} {options : GroupingOptions}

theorem source?_blank (sources : List ScannedSource) (index : Nat) :
    source? (sources.map (·.blank)) index = (source? sources index).map (·.blank) := by
  unfold source?
  rw [← List.map_reverse, List.find?_map]
  rfl

theorem content?_blank (sources : List ScannedSource) :
    content? (sources.map (·.blank)) = content? sources := by
  funext window
  unfold content?
  rw [source?_blank, Option.map_map]
  rfl

theorem occurrence?_blank (sources : List ScannedSource) :
    occurrence? (sources.map (·.blank)) = occurrence? sources := by
  funext span
  unfold occurrence?
  rw [source?_blank, Option.map_map]
  rfl

theorem windowsOf_blank (size : Nat) (sources : List ScannedSource) :
    windowsOf size (sources.map (·.blank)) = windowsOf size sources := by
  unfold windowsOf
  rw [List.flatMap_map]
  rfl

theorem kindOf_blank (size : Nat) (sources : List ScannedSource) :
    kindOf size (sources.map (·.blank)) = kindOf size sources := by
  funext window
  unfold kindOf ordered
  rw [windowsOf_blank, content?_blank]

theorem heads_blank (size : Nat) (sources : List ScannedSource) :
    heads size (sources.map (·.blank)) = heads size sources := by
  unfold heads ordered
  rw [windowsOf_blank, kindOf_blank]

theorem lists_spanGroups_congr (verified : options.verifyContent = true)
    (leftEnumerated : Enumerated size left) (rightEnumerated : Enumerated size right)
    (same : left.map (·.blank) = right.map (·.blank)) :
    SpanGroup.lists (spanGroups left options (tally size left).buckets) =
      SpanGroup.lists (spanGroups right options (tally size right).buckets) := by
  rw [leftEnumerated.lists_spanGroups, rightEnumerated.lists_spanGroups,
    leftEnumerated.lists_orderedGroups verified, rightEnumerated.lists_orderedGroups verified,
    ← heads_blank size left, ← kindOf_blank size left, same, heads_blank, kindOf_blank]

/-- Sources with the same texts have reports with the same occurrences. -/
theorem occurrences_reportOf_congr (verified : options.verifyContent = true)
    (leftEnumerated : Enumerated size left) (rightEnumerated : Enumerated size right)
    (same : left.map (·.blank) = right.map (·.blank)) :
    (reportOf size options left).groups.map (·.occurrences) =
      (reportOf size options right).groups.map (·.occurrences) := by
  unfold reportOf
  rw [occurrences_report, occurrences_report,
    lists_spanGroups_congr verified leftEnumerated rightEnumerated same,
    ← occurrence?_blank left, same, occurrence?_blank]

theorem blank_reprint (print : List Token → Fingerprint) (size : Nat)
    (sources : List ScannedSource) :
    (sources.map (·.reprint print size)).map (·.blank) = sources.map (·.blank) := by
  rw [List.map_map]
  rfl

theorem Enumerated.reprint (enumerated : Enumerated size sources)
    (print : List Token → Fingerprint) :
    Enumerated size (sources.map (·.reprint print size)) := by
  apply enumerated_of_listing
  · rw [List.map_map]
    exact enumerated.distinct
  · intro source member
    obtain ⟨original, _, rfl⟩ := List.mem_map.mp member
    rfl

/-! ### Any assignment of fingerprints -/

/-- Windows with the same tokens are assigned the same fingerprint; others may be as well. -/
def Faithful (size : Nat) (sources : List ScannedSource) (print : Window → Fingerprint) : Prop :=
  ∀ left ∈ windowsOf size sources, ∀ right ∈ windowsOf size sources,
    content? sources left = content? sources right → print left = print right

theorem blank_assign (print : Window → Fingerprint) (size : Nat) (sources : List ScannedSource) :
    (sources.map (·.assign print size)).map (·.blank) = sources.map (·.blank) := by
  rw [List.map_map]
  rfl

theorem content?_assign (print : Window → Fingerprint) (size : Nat)
    (sources : List ScannedSource) :
    content? (sources.map (·.assign print size)) = content? sources := by
  rw [← content?_blank, blank_assign, content?_blank]

section Assigned

variable {print : Window → Fingerprint} (distinct : (sources.map (·.index)).Nodup)
  (starts : ∀ source ∈ sources,
    source.windows.map (·.start) = List.range (Window.count source.tokens.length size))

include starts

theorem mem_prints_assign {item : Fingerprint × Window}
    (member : item ∈ prints size (sources.map (·.assign print size))) :
    item.2 ∈ windowsOf size sources ∧ item.1 = print item.2 := by
  obtain ⟨assigned, present, inside⟩ := List.mem_flatMap.mp member
  obtain ⟨source, known, rfl⟩ := List.mem_map.mp present
  obtain ⟨labelled, listed, rfl⟩ := List.mem_map.mp inside
  obtain ⟨window, held, rfl⟩ := List.mem_map.mp listed
  have start : window.start ∈ List.range (Window.count source.tokens.length size) := by
    rw [← starts source known]
    exact List.mem_map.mpr ⟨window, held, rfl⟩
  exact ⟨mem_windowsOf.mpr ⟨source, known, window.start, List.mem_range.mp start, rfl⟩, rfl⟩

include distinct

theorem enumerated_assign (faithful : Faithful size sources print) :
    Enumerated size (sources.map (·.assign print size)) := by
  constructor
  · rw [List.map_map]
    exact distinct
  · intro assigned member
    obtain ⟨source, known, rfl⟩ := List.mem_map.mp member
    change List.map _ (List.map _ source.windows) = _
    rw [List.map_map]
    exact starts source known
  · intro left leftMember right rightMember same
    obtain ⟨leftKnown, leftPrint⟩ := mem_prints_assign starts leftMember
    obtain ⟨rightKnown, rightPrint⟩ := mem_prints_assign starts rightMember
    rw [content?_assign] at same
    rw [leftPrint, rightPrint]
    exact faithful left.2 leftKnown right.2 rightKnown same

/-- Two assignments of fingerprints give reports with as many groups, and with the same occurrences
group by group, whatever contents share a fingerprint in the one or in the other. -/
theorem occurrences_reportOf_assign (verified : options.verifyContent = true)
    {first second : Window → Fingerprint} (firstFaithful : Faithful size sources first)
    (secondFaithful : Faithful size sources second) :
    let left := reportOf size options (sources.map (·.assign first size))
    let right := reportOf size options (sources.map (·.assign second size))
    left.groups.length = right.groups.length ∧
      left.groups.map (·.occurrences) = right.groups.map (·.occurrences) := by
  intro left right
  have same : left.groups.map (·.occurrences) = right.groups.map (·.occurrences) := by
    apply occurrences_reportOf_congr verified (enumerated_assign distinct starts firstFaithful)
      (enumerated_assign distinct starts secondFaithful)
    rw [blank_assign, blank_assign]
  constructor
  · have lengths := congrArg List.length same
    rwa [List.length_map, List.length_map] at lengths
  · exact same

end Assigned

/-- Two sources that share a token. -/
def crossed : List ScannedSource :=
  [⟨0, ['a'], .ofTokens [['1'], ['2']], [⟨0, ⟨0⟩⟩, ⟨1, ⟨0⟩⟩]⟩,
    ⟨1, ['b'], .ofTokens [['2'], ['3']], [⟨0, ⟨0⟩⟩, ⟨1, ⟨0⟩⟩]⟩]

/-- The fingerprint of the tokens of a window. -/
def printOf (sources : List ScannedSource) (window : Window) : Fingerprint :=
  Fingerprint.ofTokens ((content? sources window).getD [])

theorem occurrences_reportOf_assign_crossed :
    (reportOf 1 ⟨1, true, true⟩ (crossed.map (·.assign (printOf crossed) 1))).groups.map
        (·.occurrences) =
      (reportOf 1 ⟨1, true, true⟩ (crossed.map (·.assign (fun _ => ⟨0⟩) 1))).groups.map
        (·.occurrences) := by
  have own : Faithful 1 crossed (printOf crossed) := by
    intro left _ right _ same
    unfold printOf
    rw [same]
  have alone : Faithful 1 crossed fun _ => ⟨0⟩ := fun _ _ _ _ _ => rfl
  exact (@occurrences_reportOf_assign 1 crossed ⟨1, true, true⟩ (by decide) (by decide) rfl _ _ own
    alone).2

end Grouping

end RepeatScan
