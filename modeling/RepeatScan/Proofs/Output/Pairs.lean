import Mathlib.Data.List.Forall2
import RepeatScan.Proofs.Output.Fields
import RepeatScan.Proofs.Text.Digits
import RepeatScan.Proofs.Text.Pieces

set_option autoImplicit false

/-! Pairs read back. Every line of the pairs of a report is read as the fields of two occurrences of one
group, and the lines are those of all pairs of all groups whose sources can be read back, in order. -/

namespace RepeatScan.Pairs

/-! ### Pairs of positions -/

/-- The pairs of positions below a bound, the earlier position first, in lexicographic order. -/
def positionPairs (bound : Nat) : List (Nat × Nat) :=
  (List.range bound).flatMap fun earlier =>
    ((List.range bound).filter (earlier < ·)).map fun later => (earlier, later)

theorem positionPairs_succ (bound : Nat) :
    positionPairs (bound + 1) =
      (List.range bound).map (fun later => (0, later + 1)) ++
        (positionPairs bound).map fun places => (places.1 + 1, places.2 + 1) := by
  unfold positionPairs
  rw [List.range_succ_eq_map, List.flatMap_cons, List.flatMap_map, List.map_flatMap]
  congr 1
  · have all : (List.range bound).filter (fun _ => true) = List.range bound :=
      List.filter_eq_self.mpr fun _ _ => rfl
    simp [List.filter_map, Function.comp_def, all]
  · apply List.flatMap_congr
    intro earlier _
    simp [List.filter_map, Function.comp_def]

theorem pairsOf_positionPairs {α : Type} (items : List α) :
    List.Forall₂
      (fun places pair => items[places.1]? = some pair.1 ∧ items[places.2]? = some pair.2)
      (positionPairs items.length) (pairsOf items) := by
  induction items with
  | nil => exact List.Forall₂.nil
  | cons item later ih =>
      rw [List.length_cons, positionPairs_succ]
      refine List.rel_append ?_ ?_
      · rw [List.forall₂_map_left_iff, List.forall₂_map_right_iff, List.forall₂_iff_get]
        simp
      · rw [List.forall₂_map_left_iff]
        exact ih.imp fun places pair found => by simpa using found

theorem mem_of_mem_pairsOf {α : Type} {items : List α} {pair : α × α}
    (member : pair ∈ pairsOf items) : pair.1 ∈ items ∧ pair.2 ∈ items := by
  induction items with
  | nil => cases member
  | cons item later ih =>
      rcases List.mem_append.mp member with first | rest
      · obtain ⟨other, listed, rfl⟩ := List.mem_map.mp first
        exact ⟨List.mem_cons_self, List.mem_cons_of_mem item listed⟩
      · exact ⟨List.mem_cons_of_mem item (ih rest).1, List.mem_cons_of_mem item (ih rest).2⟩

/-! ### Fields that fit into a line -/

/-- A field that leaves nothing open and stays on its line. -/
structure Fits (field : Text) : Prop where
  closed : Closed field
  flat : '\n' ∉ field

theorem fits_of_plain {text : Text} (plain : ∀ character ∈ text, character ∉ signs) : Fits text where
  closed := closed_of_plain plain
  flat member := plain '\n' member (by decide)

theorem fits_decimal (number : Nat) : Fits (Text.decimal number) :=
  fits_of_plain (plain_decimal number)

theorem fits_literal (text : Text) : Fits (literal text) :=
  ⟨closed_literal text, newline_not_mem_literal text⟩

theorem fits_header (withText : Bool) : ∀ name ∈ header withText, Fits name := by
  have plain : (header withText).all isPlain = true := by
    cases withText with
    | true => rfl
    | false => rfl
  exact fun name listed => fits_of_plain (isPlain_iff.mp (List.all_eq_true.mp plain name listed))

theorem newline_not_mem_intercalate {fields : List Text} (fits : ∀ field ∈ fields, Fits field) :
    '\n' ∉ [','].intercalate fields := by
  induction fields with
  | nil => simp
  | cons field later ih =>
      have first := (fits field List.mem_cons_self).flat
      have rest := ih fun other listed => fits other (List.mem_cons_of_mem field listed)
      cases later with
      | nil => simpa using first
      | cons next others =>
          rw [List.intercalate_cons_cons]
          simp [first, rest]

theorem fields?_of_fits {fields : List Text} (inhabited : fields ≠ [])
    (fits : ∀ field ∈ fields, Fits field) : fields? ([','].intercalate fields) = some fields :=
  fields?_intercalate inhabited fun field listed => (fits field listed).closed

/-! ### Rows -/

/-- A group whose sources hold no sign with a meaning. -/
def ReadsBack (group : Group) : Prop :=
  ∀ occurrence ∈ group.occurrences, ∀ character ∈ occurrence.source, character ∉ signs

instance ReadsBack.decidable (group : Group) : Decidable (ReadsBack group) :=
  inferInstanceAs (Decidable (∀ _ ∈ _, ∀ _ ∈ _, _))

theorem readsBack_iff {group : Group} :
    ReadsBack group ↔
      (group.occurrences.all fun occurrence => isPlain occurrence.source) = true := by
  simp only [ReadsBack, List.all_eq_true, isPlain_iff]

/-- What stands behind the fields of a pair: nothing when no snippets are asked for, and otherwise a
literal of the snippet of the first occurrence, or an empty field when that has none. -/
def ShowsSnippet (snippet? : Option (Occurrence → Option Text)) (group : Group)
    (extra : List Text) : Prop :=
  match snippet? with
  | none => extra = []
  | some snippet => ∃ first field, group.occurrences[0]? = some first ∧ extra = [field] ∧
      match snippet first with
      | none => field = []
      | some text => Json.decode Json.Node.readText field = .ok text

/-- A line that is read as the fields of the occurrences at two positions of a group. -/
def ShowsPair (snippet? : Option (Occurrence → Option Text)) (place : Group × Nat × Nat)
    (line : Text) : Prop :=
  ∃ left right extra, place.1.occurrences[place.2.1]? = some left ∧
    place.1.occurrences[place.2.2]? = some right ∧ ShowsSnippet snippet? place.1 extra ∧
    fields? line = some
      ([ left.source, right.source, Text.decimal left.lines.first, Text.decimal left.lines.last,
         Text.decimal (left.stop - left.start), Text.decimal right.lines.first,
         Text.decimal right.lines.last, Text.decimal (right.stop - right.start) ] ++ extra)

/-- The pairs of positions of some groups that can be read back, each with its group. -/
def places (groups : List Group) : List (Group × Nat × Nat) :=
  (groups.filter fun group => ReadsBack group).flatMap fun group =>
    (positionPairs group.occurrences.length).map fun positions => (group, positions)

variable {snippet? : Option (Occurrence → Option Text)} {group : Group}

def extraFields (snippet? : Option (Occurrence → Option Text)) (group : Group) : List Text :=
  snippet?.toList.map fun snippet => snippetField snippet group.occurrences

theorem rows_of_readsBack (plain : ReadsBack group) :
    rows snippet? group = (pairsOf group.occurrences).map fun pair =>
      pairFields pair.1 pair.2 ++ extraFields snippet? group :=
  if_pos (readsBack_iff.mp plain)

theorem rows_of_not_readsBack (spoiled : ¬ ReadsBack group) : rows snippet? group = [] :=
  if_neg fun plain => spoiled (readsBack_iff.mpr plain)

theorem fits_pairFields {left right : Occurrence} (inLeft : Fits left.source)
    (inRight : Fits right.source) : ∀ field ∈ pairFields left right, Fits field := by
  intro field listed
  simp only [pairFields, List.mem_cons, List.not_mem_nil, or_false] at listed
  rcases listed with rfl | rfl | rfl | rfl | rfl | rfl | rfl | rfl
  · exact inLeft
  · exact inRight
  all_goals exact fits_decimal _

theorem fits_extraFields (snippet? : Option (Occurrence → Option Text)) (group : Group) :
    ∀ field ∈ extraFields snippet? group, Fits field := by
  intro field listed
  obtain ⟨snippet, _, rfl⟩ := List.mem_map.mp listed
  unfold snippetField
  cases group.occurrences.head?.bind snippet with
  | none => exact fits_of_plain (by simp)
  | some text => exact fits_literal text

theorem fits_row {left right : Occurrence} (inLeft : Fits left.source)
    (inRight : Fits right.source) (snippet? : Option (Occurrence → Option Text)) (group : Group) :
    ∀ field ∈ pairFields left right ++ extraFields snippet? group, Fits field := by
  intro field listed
  rcases List.mem_append.mp listed with own | extra
  · exact fits_pairFields inLeft inRight field own
  · exact fits_extraFields snippet? group field extra

theorem showsSnippet_extraFields {first : Occurrence} (stands : group.occurrences[0]? = some first) :
    ShowsSnippet snippet? group (extraFields snippet? group) := by
  cases snippet? with
  | none => rfl
  | some snippet =>
      have field : snippetField snippet group.occurrences = (snippet first).elim [] literal := by
        unfold snippetField
        rw [List.head?_eq_getElem?, stands]
        rfl
      refine ⟨first, snippetField snippet group.occurrences, stands, rfl, ?_⟩
      rw [field]
      cases snippet first with
      | none => rfl
      | some text => exact (body_literalBody text).decode_literal

theorem fits_of_mem_rows {row : List Text} (member : row ∈ rows snippet? group) :
    ∀ field ∈ row, Fits field := by
  by_cases plain : ReadsBack group
  · rw [rows_of_readsBack plain] at member
    obtain ⟨pair, listed, rfl⟩ := List.mem_map.mp member
    obtain ⟨inLeft, inRight⟩ := mem_of_mem_pairsOf listed
    exact fits_row (fits_of_plain (plain _ inLeft)) (fits_of_plain (plain _ inRight)) snippet? group
  · rw [rows_of_not_readsBack plain] at member
    cases member

theorem showsPair_of_readsBack (plain : ReadsBack group) {positions : Nat × Nat}
    {pair : Occurrence × Occurrence} (left : group.occurrences[positions.1]? = some pair.1)
    (right : group.occurrences[positions.2]? = some pair.2) :
    ShowsPair snippet? (group, positions)
      ([','].intercalate (pairFields pair.1 pair.2 ++ extraFields snippet? group)) := by
  have inLeft := fits_of_plain (plain _ (List.mem_of_getElem? left))
  have inRight := fits_of_plain (plain _ (List.mem_of_getElem? right))
  obtain ⟨first, stands⟩ : ∃ first, group.occurrences[0]? = some first := by
    cases listed : group.occurrences with
    | nil => simp [listed] at left
    | cons first later => exact ⟨first, rfl⟩
  exact ⟨_, _, _, left, right, showsSnippet_extraFields stands,
    fields?_of_fits (List.cons_ne_nil _ _) (fits_row inLeft inRight snippet? group)⟩

theorem showsPair_rows (groups : List Group) :
    List.Forall₂ (ShowsPair snippet?) (places groups)
      ((groups.flatMap (rows snippet?)).map ([','].intercalate ·)) := by
  induction groups with
  | nil => exact List.Forall₂.nil
  | cons group later ih =>
      unfold places at ih ⊢
      by_cases plain : ReadsBack group
      · rw [List.filter_cons_of_pos (by simpa using plain), List.flatMap_cons, List.flatMap_cons,
          List.map_append]
        refine List.rel_append ?_ ih
        rw [rows_of_readsBack plain, List.map_map, List.forall₂_map_left_iff,
          List.forall₂_map_right_iff]
        exact (pairsOf_positionPairs group.occurrences).imp fun _ _ found =>
          showsPair_of_readsBack plain found.1 found.2
      · rw [List.filter_cons_of_neg (by simpa using plain), List.flatMap_cons,
          rows_of_not_readsBack plain, List.nil_append]
        exact ih

/-- Cut at its line ends, and each line at its commas outside quotes, the output for any report is read
as the names of the eight fields, a ninth one with snippets, and then, for all groups whose sources can
be read back and for all pairs of their occurrences in order, the fields of the two occurrences. Behind
the last line nothing is left; and the digits of a number tell it. -/
theorem lines_ofReport (snippet? : Option (Occurrence → Option Text)) (report : Report) :
    (∃ heading lines,
      Text.pieces '\n' (ofReport snippet? report) = (heading :: lines) ++ [[]] ∧
        fields? heading = some
          ([ "path1".toList, "path2".toList, "start_line1".toList, "end_line1".toList,
             "token_count1".toList, "start_line2".toList, "end_line2".toList,
             "token_count2".toList ] ++ if snippet?.isSome then ["text".toList] else []) ∧
        List.Forall₂ (ShowsPair snippet?) (places report.groups) lines) ∧
      ∀ number, Text.digits? (Text.decimal number) = some number := by
  refine ⟨⟨[','].intercalate (header snippet?.isSome),
    (report.groups.flatMap (rows snippet?)).map ([','].intercalate ·), ?_, ?_, ?_⟩,
    Text.digits?_decimal⟩
  · have written : ofReport snippet? report =
        ((header snippet?.isSome :: report.groups.flatMap (rows snippet?)).map
          ([','].intercalate ·)).flatMap fun line => line ++ ['\n'] := by
      rw [List.flatMap_map]
      rfl
    rw [written, Text.pieces_flatMap_ended, List.map_cons]
    intro line listed
    obtain ⟨row, member, rfl⟩ := List.mem_map.mp listed
    apply newline_not_mem_intercalate
    rcases List.mem_cons.mp member with rfl | inRows
    · exact fits_header _
    · obtain ⟨group, _, inside⟩ := List.mem_flatMap.mp inRows
      exact fits_of_mem_rows inside
  · exact fields?_of_fits (by simp [header]) (fits_header _)
  · exact showsPair_rows report.groups

end RepeatScan.Pairs
