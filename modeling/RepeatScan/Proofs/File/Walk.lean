import Mathlib.Data.List.Nodup
import RepeatScan.File.Tree

set_option autoImplicit false

/-! The files at and below a node. Each stands where a chain of names leads, one name for each folder on
the way. Main statement: where no folder has two entries of one name, a walk lists exactly these
chains, and in the order of the first names in which two of them differ. -/

namespace RepeatScan

namespace Text

theorem precedes_total (left right : Text) : left.precedes right = true ∨ right.precedes left = true := by
  induction left generalizing right with
  | nil => exact .inl rfl
  | cons first later ih =>
      cases right with
      | nil => exact .inr rfl
      | cons other others =>
          rcases Nat.lt_trichotomy first.toNat other.toNat with less | same | more
          · exact .inl (by simp [precedes, less])
          · obtain rfl := Char.toNat_inj.mp same
            simpa [precedes] using ih others
          · exact .inr (by simp [precedes, more])

theorem precedes_trans {left middle right : Text} (first : left.precedes middle = true)
    (second : middle.precedes right = true) : left.precedes right = true := by
  induction left generalizing middle right with
  | nil => rfl
  | cons sign later ih =>
      cases middle with
      | nil => cases first
      | cons other others =>
          cases right with
          | nil => cases second
          | cons last rest =>
              simp only [precedes, Bool.or_eq_true, Bool.and_eq_true, decide_eq_true_eq,
                beq_iff_eq] at first second ⊢
              rcases first with less | ⟨rfl, behind⟩
              · rcases second with below | ⟨rfl, _⟩
                · exact .inl (Nat.lt_trans less below)
                · exact .inl less
              · rcases second with below | ⟨rfl, after⟩
                · exact .inl below
                · exact .inr ⟨rfl, ih behind after⟩

end Text

namespace FileNode

variable {motive : FileNode → Prop}

mutual

/-- What holds of files, and of folders when it holds of all their entries, holds of all nodes. -/
theorem induction (file : ∀ bytes, motive (.file bytes))
    (folder : ∀ entries : List (Text × FileNode), (∀ entry ∈ entries, motive entry.2) →
      motive (.folder entries)) : ∀ node, motive node
  | .file bytes => file bytes
  | .folder entries => folder entries (inductionEntries file folder entries)

theorem inductionEntries (file : ∀ bytes, motive (.file bytes))
    (folder : ∀ entries : List (Text × FileNode), (∀ entry ∈ entries, motive entry.2) →
      motive (.folder entries)) : ∀ entries : List (Text × FileNode), ∀ entry ∈ entries, motive entry.2
  | [], _, member => absurd member List.not_mem_nil
  | (_, node) :: later, entry, member => by
      rcases List.mem_cons.mp member with rfl | inLater
      · exact induction file folder node
      · exact inductionEntries file folder later entry inLater

end

/-- No folder has two entries of one name. -/
inductive Tidy : FileNode → Prop
  | file (bytes : ByteArray) : Tidy (.file bytes)
  | folder {entries : List (Text × FileNode)} (distinct : (entries.map (·.1)).Nodup)
      (below : ∀ entry ∈ entries, Tidy entry.2) : Tidy (.folder entries)

/-- A file stands where names lead from a node, each name from a folder to one of its entries. -/
inductive Holds : FileNode → List Text → Prop
  | here (bytes : ByteArray) : Holds (.file bytes) []
  | inside {entries : List (Text × FileNode)} {name : Text} {node : FileNode} {names : List Text}
      (listed : (name, node) ∈ entries) (held : Holds node names) :
      Holds (.folder entries) (name :: names)

/-- One chain of names comes before another one by the first names in which they differ. -/
inductive Before : List Text → List Text → Prop
  | here {left right : Text} (lefts rights : List Text) (less : left.precedes right = true)
      (other : left ≠ right) : Before (left :: lefts) (right :: rights)
  | behind (name : Text) {lefts rights : List Text} (later : Before lefts rights) :
      Before (name :: lefts) (name :: rights)

mutual

/-- The chains of names that lead to the files at and below a node, entries ordered by name. -/
def walk : FileNode → List (List Text)
  | .file _ => [[]]
  | .folder entries =>
      ((walkEntries entries).mergeSort fun left right => left.1.precedes right.1).flatMap (·.2)

def walkEntries : List (Text × FileNode) → List (Text × List (List Text))
  | [] => []
  | (name, node) :: later => (name, (walk node).map (name :: ·)) :: walkEntries later

end

theorem walkEntries_eq_map (entries : List (Text × FileNode)) :
    walkEntries entries = entries.map fun entry => (entry.1, (walk entry.2).map (entry.1 :: ·)) := by
  induction entries with
  | nil => rfl
  | cons entry later ih =>
      obtain ⟨name, node⟩ := entry
      rw [walkEntries, ih, List.map_cons]

/-! ### The files of a walk -/

theorem mem_walk (node : FileNode) (names : List Text) : names ∈ node.walk ↔ node.Holds names := by
  induction node using FileNode.induction generalizing names with
  | file bytes =>
      rw [walk, List.mem_singleton]
      constructor
      · rintro rfl
        exact .here bytes
      · rintro ⟨⟩
        rfl
  | folder entries ih =>
      simp only [walk, List.mem_flatMap, List.mem_mergeSort, walkEntries_eq_map, List.mem_map]
      constructor
      · rintro ⟨_, ⟨entry, listed, rfl⟩, member⟩
        obtain ⟨later, found, rfl⟩ := List.mem_map.mp member
        exact .inside listed ((ih entry listed later).mp found)
      · intro held
        cases held with
        | @inside _ name node later listed held =>
            have found := (ih (name, node) listed later).mpr held
            exact ⟨_, ⟨(name, node), listed, rfl⟩, List.mem_map.mpr ⟨later, found, rfl⟩⟩

theorem pairwise_walk {node : FileNode} (tidy : node.Tidy) : node.walk.Pairwise Before := by
  induction tidy with
  | file bytes =>
      rw [walk]
      exact List.pairwise_singleton Before []
  | @folder entries distinct below ih =>
      have sorted : ((walkEntries entries).mergeSort
          fun left right => left.1.precedes right.1).Pairwise
            fun left right => left.1.precedes right.1 = true := by
        apply List.pairwise_mergeSort
        · exact fun _ _ _ => Text.precedes_trans
        · exact fun left right => by simpa using Text.precedes_total left.1 right.1
      have apart : ((walkEntries entries).mergeSort
          fun left right => left.1.precedes right.1).Pairwise fun left right => left.1 ≠ right.1 := by
        rw [← List.pairwise_map, ← List.nodup_iff_pairwise_ne,
          (((walkEntries entries).mergeSort_perm _).map (·.1)).nodup_iff, walkEntries_eq_map,
          List.map_map]
        exact distinct
      rw [walk, List.pairwise_flatMap]
      constructor
      · intro part member
        rw [List.mem_mergeSort, walkEntries_eq_map] at member
        obtain ⟨entry, listed, rfl⟩ := List.mem_map.mp member
        exact List.pairwise_map.mpr ((ih entry listed).imp fun later => .behind entry.1 later)
      · refine (sorted.and apart).imp_of_mem ?_
        intro left right inLeft inRight order names member others listed
        rw [List.mem_mergeSort, walkEntries_eq_map] at inLeft inRight
        obtain ⟨first, _, rfl⟩ := List.mem_map.mp inLeft
        obtain ⟨second, _, rfl⟩ := List.mem_map.mp inRight
        obtain ⟨lefts, _, rfl⟩ := List.mem_map.mp member
        obtain ⟨rights, _, rfl⟩ := List.mem_map.mp listed
        exact .here lefts rights order.1 order.2

/-! ### The paths of a walk -/

/-- The path that goes on from another one by a chain of names. -/
def joined (path : Text) (names : List Text) : Text :=
  names.foldl FilePath.join path

theorem filesBelow_eq_map (node : FileNode) (path : Text) :
    filesBelow path node = node.walk.map (joined path) := by
  induction node using FileNode.induction generalizing path with
  | file bytes => rw [filesBelow, walk, List.map_singleton]; rfl
  | folder entries ih =>
      have parts : entriesBelow path entries =
          (walkEntries entries).map fun part => (part.1, part.2.map (joined path)) := by
        rw [walkEntries_eq_map, List.map_map]
        induction entries with
        | nil => rfl
        | cons entry later rest =>
            obtain ⟨name, node⟩ := entry
            have first := ih (name, node) List.mem_cons_self (FilePath.join path name)
            rw [entriesBelow, first, List.map_cons,
              rest fun other listed => ih other (List.mem_cons_of_mem _ listed)]
            simp [Function.comp_def, joined]
      have sorted : ((walkEntries entries).map fun part =>
            (part.1, part.2.map (joined path))).mergeSort
              (fun left right => left.1.precedes right.1) =
          ((walkEntries entries).mergeSort fun left right => left.1.precedes right.1).map
            fun part => (part.1, part.2.map (joined path)) := by
        symm
        apply List.map_mergeSort
        intro _ _ _ _
        rfl
      rw [filesBelow, walk, parts, sorted, List.map_flatMap, List.flatMap_map]

end FileNode

end RepeatScan
