import Mathlib.Data.List.SplitBy
import RepeatScan.Lexeme

set_option autoImplicit false

/-! Runs of a text. A run is a maximal stretch of characters of one kind, and one kind is a gap that
only separates. Lexemes and words are both runs, of two notions of kind. Main statement: a text has
one list of runs, and the scan by neighbours finds it. -/

namespace RepeatScan.Text

variable {Kind : Type} {kind : Char → Kind} {gap : Kind}

/-- The runs of a text in order, as one reads them off from its start: a gap is passed over, and a
run takes all characters of its kind that follow. -/
inductive Runs {Kind : Type} (kind : Char → Kind) (gap : Kind) : Text → List Text → Prop
  | done : Runs kind gap [] []
  | skip {character : Char} {rest : Text} {found : List Text} (blank : kind character = gap)
      (later : Runs kind gap rest found) : Runs kind gap (character :: rest) found
  | take {first : Char} {run rest : Text} {found : List Text} (solid : kind first ≠ gap)
      (alike : ∀ other ∈ run, kind other = kind first)
      (ends : ∀ next ∈ rest.head?, kind next ≠ kind first)
      (later : Runs kind gap rest found) :
      Runs kind gap (first :: run ++ rest) ((first :: run) :: found)

/-- Runs hold no gap, and are of one kind. -/
theorem Runs.alike {text run : Text} {found : List Text} (read : Runs kind gap text found)
    (member : run ∈ found) :
    run ≠ [] ∧ ∃ sort, sort ≠ gap ∧ ∀ character ∈ run, kind character = sort := by
  induction read with
  | done => cases member
  | skip _ _ ih => exact ih member
  | @take first others rest found solid same ends later ih =>
      rcases List.mem_cons.mp member with rfl | inside
      · exact ⟨List.cons_ne_nil first others, kind first, solid, by simpa using same⟩
      · exact ih inside

theorem Runs.flatten_sublist {text : Text} {found : List Text} (read : Runs kind gap text found) :
    found.flatten.Sublist text := by
  induction read with
  | done => exact List.Sublist.refl []
  | skip _ _ ih => exact ih.cons _
  | take _ _ _ _ ih => exact ih.append_left _

theorem Runs.isInfix {text run : Text} {found : List Text} (read : Runs kind gap text found)
    (member : run ∈ found) : run <:+: text := by
  induction read with
  | done => cases member
  | skip _ _ ih => exact (ih member).trans (List.suffix_cons _ _).isInfix
  | @take first others rest found solid same ends later ih =>
      rcases List.mem_cons.mp member with rfl | inside
      · exact (List.prefix_append _ _).isInfix
      · exact (ih inside).trans (List.suffix_append _ _).isInfix

private theorem last_alike {first : Char} {run : Text}
    (alike : ∀ other ∈ run, kind other = kind first) :
    ∀ last ∈ (first :: run).getLast?, kind last = kind first := by
  intro last ending
  rcases List.mem_cons.mp (List.mem_of_getLast? ending) with same | inside
  · rw [same]
  · exact alike last inside

section Scan

variable [DecidableEq Kind]

/-- The stretches of neighbours of one kind, without those that are gaps. -/
def runs (kind : Char → Kind) (gap : Kind) (text : Text) : List Text :=
  (text.splitBy fun left right => kind left == kind right).filter
    fun run => run.head?.any fun character => kind character != gap

/-! ### How the scan goes on -/

@[simp]
theorem runs_nil : runs kind gap [] = [] := rfl

theorem runs_append {left right : Text}
    (apart : ∀ last ∈ left.getLast?, ∀ first ∈ right.head?, kind last ≠ kind first) :
    runs kind gap (left ++ right) = runs kind gap left ++ runs kind gap right := by
  unfold runs
  rw [List.splitBy_append, List.filter_append]
  intro last ending first opening
  rw [beq_eq_false_iff_ne]
  exact apart last ending first opening

private theorem splitBy_alike {first : Char} {run : Text}
    (alike : ∀ other ∈ run, kind other = kind first) :
    (first :: run).splitBy (fun left right => kind left == kind right) = [first :: run] := by
  apply List.splitBy_of_isChain (List.cons_ne_nil first run)
  have all : ∀ other ∈ first :: run, kind other = kind first := by simpa using alike
  apply List.Pairwise.isChain
  apply List.pairwise_of_forall_mem_list
  intro left inLeft right inRight
  rw [all left inLeft, all right inRight, beq_self_eq_true]

theorem runs_take {first : Char} {run rest : Text} (solid : kind first ≠ gap)
    (alike : ∀ other ∈ run, kind other = kind first)
    (ends : ∀ next ∈ rest.head?, kind next ≠ kind first) :
    runs kind gap (first :: run ++ rest) = (first :: run) :: runs kind gap rest := by
  rw [runs_append]
  · have single : runs kind gap (first :: run) = [first :: run] := by
      unfold runs
      rw [splitBy_alike alike]
      simp [solid]
    rw [single, List.singleton_append]
  · intro last ending next opening same
    exact ends next opening (same.symm.trans (last_alike alike last ending))

private theorem runs_gaps {blanks rest : Text} (blank : ∀ other ∈ blanks, kind other = gap)
    (ends : ∀ next ∈ rest.head?, kind next ≠ gap) :
    runs kind gap (blanks ++ rest) = runs kind gap rest := by
  cases blanks with
  | nil => rfl
  | cons first later =>
      have first_blank : kind first = gap := blank first List.mem_cons_self
      have alike : ∀ other ∈ later, kind other = kind first := by
        intro other inside
        rw [first_blank, blank other (List.mem_cons_of_mem first inside)]
      rw [runs_append]
      · have none : runs kind gap (first :: later) = [] := by
          unfold runs
          rw [splitBy_alike alike]
          simp [first_blank]
        rw [none, List.nil_append]
      · intro last ending next opening same
        apply ends next opening
        rw [← same, last_alike alike last ending, first_blank]

/-- A text begins with a stretch of any kind one asks for, which may be empty. -/
theorem exists_stretch (sort : Kind) (text : Text) :
    ∃ run rest, text = run ++ rest ∧ (∀ other ∈ run, kind other = sort) ∧
      ∀ next ∈ rest.head?, kind next ≠ sort := by
  induction text with
  | nil => exact ⟨[], [], rfl, by simp, by simp⟩
  | cons first later ih =>
      by_cases same : kind first = sort
      · obtain ⟨run, rest, rfl, alike, ends⟩ := ih
        exact ⟨first :: run, rest, rfl, by simpa [same] using alike, ends⟩
      · exact ⟨[], first :: later, rfl, by simp, by simpa using same⟩

theorem runs_skip {character : Char} (blank : kind character = gap) (rest : Text) :
    runs kind gap (character :: rest) = runs kind gap rest := by
  obtain ⟨blanks, later, rfl, within, ends⟩ := exists_stretch gap rest
  have longer : ∀ other ∈ character :: blanks, kind other = gap := by
    simpa [blank] using within
  rw [← List.cons_append, runs_gaps longer ends, runs_gaps within ends]

/-! ### One list of runs -/

theorem Runs.eq {text : Text} {found : List Text} (read : Runs kind gap text found) :
    found = runs kind gap text := by
  induction read with
  | done => rfl
  | skip blank later ih => rw [runs_skip blank, ih]
  | take solid alike ends later ih => rw [runs_take solid alike ends, ih]

theorem runs_read (kind : Char → Kind) (gap : Kind) (text : Text) :
    Runs kind gap text (runs kind gap text) := by
  generalize size : text.length = count
  induction count using Nat.strong_induction_on generalizing text with
  | _ count ih =>
      cases text with
      | nil => exact Runs.done
      | cons first later =>
          by_cases blank : kind first = gap
          · rw [runs_skip blank]
            exact Runs.skip blank (ih later.length (by simp at size; omega) later rfl)
          · obtain ⟨run, rest, rfl, alike, ends⟩ := exists_stretch (kind first) later
            rw [← List.cons_append, runs_take blank alike ends]
            exact Runs.take blank alike ends (ih rest.length (by simp at size; omega) rest rfl)

/-- What is read off from the start is what the scan finds. -/
theorem runs_iff {text : Text} {found : List Text} :
    Runs kind gap text found ↔ found = runs kind gap text := by
  constructor
  · exact Runs.eq
  · intro same
    rw [same]
    exact runs_read kind gap text

/-! ### Runs on the two sides of a gap -/

theorem Runs.append_gap {left : Text} {found : List Text} (read : Runs kind gap left found)
    {blank : Char} (separates : kind blank = gap) (right : Text) :
    Runs kind gap (left ++ blank :: right) (found ++ runs kind gap right) := by
  induction read with
  | done => exact Runs.skip separates (runs_read kind gap right)
  | skip passed later ih => exact Runs.skip passed ih
  | @take first run rest found solid alike ends later ih =>
      rw [List.append_assoc]
      refine Runs.take solid alike ?_ ih
      cases rest with
      | nil =>
          intro next opening same
          obtain rfl := Option.some.inj opening
          exact solid (same.symm.trans separates)
      | cons other rest => exact ends

theorem runs_append_gap {blank : Char} (separates : kind blank = gap) (left right : Text) :
    runs kind gap (left ++ blank :: right) = runs kind gap left ++ runs kind gap right :=
  ((runs_read kind gap left).append_gap separates right).eq.symm

theorem runs_intercalate {blank : Char} (separates : kind blank = gap) (parts : List Text) :
    runs kind gap ([blank].intercalate parts) = parts.flatMap (runs kind gap) := by
  induction parts with
  | nil => rfl
  | cons part later ih =>
      cases later with
      | nil => simp
      | cons next others =>
          rw [List.intercalate_cons_cons, List.append_assoc, List.singleton_append,
            runs_append_gap separates, ih]
          rfl

theorem runs_append_alike {run rest : Text} {sort : Kind} (inhabited : run ≠ []) (solid : sort ≠ gap)
    (alike : ∀ character ∈ run, kind character = sort)
    (ends : ∀ next ∈ rest.head?, kind next ≠ sort) :
    runs kind gap (run ++ rest) = run :: runs kind gap rest := by
  cases run with
  | nil => contradiction
  | cons first later =>
      have leads : kind first = sort := alike first List.mem_cons_self
      subst leads
      exact runs_take solid (fun other inside => alike other (List.mem_cons_of_mem first inside)) ends

theorem runs_of_alike {run : Text} {sort : Kind} (inhabited : run ≠ []) (solid : sort ≠ gap)
    (alike : ∀ character ∈ run, kind character = sort) : runs kind gap run = [run] := by
  have single : runs kind gap (run ++ []) = run :: runs kind gap [] :=
    runs_append_alike inhabited solid alike (by simp)
  rwa [List.append_nil] at single

end Scan

end RepeatScan.Text
