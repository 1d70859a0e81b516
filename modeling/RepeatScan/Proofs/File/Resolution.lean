import RepeatScan.Proofs.File.Walk
import RepeatScan.Proofs.Retrieval
import RepeatScan.Proofs.Text.Pieces

set_option autoImplicit false

/-! Where paths lead. A path leads to a place, which the names from the root tell, or nowhere. Main
statement: a path that goes on by names of entries from a path to a folder leads to the place that
these names lead to from the folder. -/

namespace RepeatScan

theorem Utf8.byteLength_append (left right : Text) :
    byteLength (left ++ right) = byteLength left + byteLength right := by
  induction left with
  | nil => simp [byteLength]
  | cons character later ih =>
      change character.utf8Size + byteLength (later ++ right) =
        character.utf8Size + byteLength later + byteLength right
      omega

namespace FilePath

/-- A text that a path can have for a segment that leads to an entry of a folder. -/
structure IsName (name : Text) : Prop where
  moves : isIdle name = false
  forward : name ≠ ['.', '.']
  single : '/' ∉ name
  noZero : '\x00' ∉ name
  short : Utf8.byteLength name ≤ FileTree.nameLimit

theorem segments_of_isName {name : Text} (isName : IsName name) : segments name = [name] :=
  Text.pieces_of_not_mem isName.single

/-- A path that goes on by a name has the segments of the path and the name, but for an empty segment
in between. -/
theorem segments_join (path : Text) {name : Text} (isName : IsName name) :
    ∃ front, (segments path = front ∨ segments path = front ++ [[]]) ∧
      segments (join path name) = front ++ [name] := by
  unfold join
  by_cases ended : path.getLast? = some '/'
  · obtain ⟨front, rfl⟩ := List.getLast?_eq_some_iff.mp ended
    refine ⟨segments front, .inr ?_, ?_⟩
    · exact Text.pieces_append_separated front []
    · rw [if_pos ended, List.append_assoc, ← segments_of_isName isName]
      exact Text.pieces_append_separated front name
  · refine ⟨segments path, .inl rfl, ?_⟩
    rw [if_neg ended, List.append_assoc, ← segments_of_isName isName]
    exact Text.pieces_append_separated path name

theorem exists_join_eq_append (path name : Text) :
    ∃ joint, join path name = path ++ joint ++ name ∧ (joint = [] ∨ joint = ['/']) := by
  unfold join
  by_cases ended : path.getLast? = some '/'
  · exact ⟨[], by rw [if_pos ended, List.append_nil], .inl rfl⟩
  · exact ⟨['/'], by rw [if_neg ended], .inr rfl⟩

end FilePath

namespace FileTree

/-- The node that a trail ends at. -/
def top (root : FileNode) (trail : List (Text × FileNode)) : FileNode :=
  (trail.head?.map (·.2)).getD root

/-- The names that lead from the root to where a trail ends. -/
def placeOf (trail : List (Text × FileNode)) : List Text :=
  (trail.map (·.1)).reverse

variable {tree : FileTree} {root : FileNode}

/-! ### Following segments -/

theorem follow_append (trail : List (Text × FileNode)) (front later : List Text) :
    follow root trail (front ++ later) =
      (follow root trail front).bind fun passed => follow root passed later := by
  induction front generalizing trail with
  | nil => rfl
  | cons segment front ih =>
      rw [List.cons_append, follow, follow]
      split
      · rfl
      · split
        · exact ih trail
        · split
          · exact ih trail.tail
          · split
            · rfl
            · split
              · rfl
              · exact ih _

/-- A name leads from a folder to the entry of that name. -/
theorem follow_name {trail : List (Text × FileNode)} {entries : List (Text × FileNode)}
    (folder : top root trail = .folder entries) {name : Text} (isName : FilePath.IsName name)
    {node : FileNode} (listed : entries.lookup name = some node) :
    follow root trail [name] = .ok ((name, node) :: trail) := by
  have short : ¬ nameLimit < Utf8.byteLength name := by
    have bound := isName.short
    omega
  unfold top at folder
  simp [follow, folder, isName.moves, isName.forward, short, listed]

/-- An empty segment stays where it is, and needs a folder just as a name does. -/
theorem follow_idle_name (trail : List (Text × FileNode)) {name : Text} :
    follow root trail [[], name] = follow root trail [name] := by
  rw [follow, follow]
  split
  · rfl
  · rename_i entries folder
    have idle : FilePath.isIdle [] = true := rfl
    rw [if_pos idle]

/-! ### Paths that go on from a path -/

theorem trail_eq_ok_iff {path : Text} {trail : List (Text × FileNode)} :
    tree.trail path = .ok trail ↔
      '\x00' ∉ path ∧ path ≠ [] ∧ Utf8.byteLength path ≤ pathLimit ∧ ∃ start,
        (if FilePath.isRooted path then .ok [] else follow tree.root [] tree.here) = .ok start ∧
          follow tree.root start (FilePath.segments path) = .ok trail := by
  unfold FileTree.trail
  by_cases zero : '\x00' ∈ path
  · simp [zero, bind, Except.bind, throw, throwThe, MonadExceptOf.throw]
  by_cases none : path = []
  · simp [none, bind, Except.bind, throw, throwThe, MonadExceptOf.throw]
  by_cases long : pathLimit < Utf8.byteLength path
  · have tooLong : ¬ Utf8.byteLength path ≤ pathLimit := Nat.not_le.mpr long
    simp [zero, none, long, tooLong, bind, Except.bind, throw, throwThe, MonadExceptOf.throw]
  have within : Utf8.byteLength path ≤ pathLimit := Nat.not_lt.mp long
  by_cases rooted : FilePath.isRooted path = true
  · simp [zero, none, long, within, rooted, bind, Except.bind]
  · cases begun : follow tree.root [] tree.here with
    | error failure => simp [zero, none, long, within, rooted, bind, Except.bind]
    | ok start => simp [zero, none, long, within, rooted, bind, Except.bind]

theorem isRooted_join {path : Text} (inhabited : path ≠ []) (name : Text) :
    FilePath.isRooted (FilePath.join path name) = FilePath.isRooted path := by
  obtain ⟨joint, split, _⟩ := FilePath.exists_join_eq_append path name
  obtain ⟨first, later, rfl⟩ := List.exists_cons_of_ne_nil inhabited
  rw [split]
  rfl

theorem byteLength_le_join (path name : Text) :
    Utf8.byteLength path ≤ Utf8.byteLength (FilePath.join path name) := by
  obtain ⟨joint, split, _⟩ := FilePath.exists_join_eq_append path name
  rw [split, Utf8.byteLength_append, Utf8.byteLength_append]
  omega

theorem zero_not_mem_join {path name : Text} (inPath : '\x00' ∉ path) (inName : '\x00' ∉ name) :
    '\x00' ∉ FilePath.join path name := by
  obtain ⟨joint, split, same | same⟩ := FilePath.exists_join_eq_append path name
  · simp [split, same, inPath, inName]
  · simp [split, same, inPath, inName]

/-- A path to a folder that goes on by the name of an entry leads to the entry. -/
theorem trail_join {path : Text} {trail entries : List (Text × FileNode)}
    (led : tree.trail path = .ok trail) (folder : top tree.root trail = .folder entries) {name : Text}
    (isName : FilePath.IsName name) {node : FileNode} (listed : entries.lookup name = some node)
    (short : Utf8.byteLength (FilePath.join path name) ≤ pathLimit) :
    tree.trail (FilePath.join path name) = .ok ((name, node) :: trail) := by
  obtain ⟨noZero, inhabited, _, start, begun, followed⟩ := trail_eq_ok_iff.mp led
  obtain ⟨front, before, after⟩ := FilePath.segments_join path isName
  have step := follow_name folder isName listed
  have onward : follow tree.root start (front ++ [name]) = .ok ((name, node) :: trail) := by
    rcases before with same | same
    · rw [← same, follow_append, followed]
      exact step
    · have stays : follow tree.root start (front ++ [[]] ++ [name]) =
          follow tree.root start (front ++ [name]) := by
        rw [List.append_assoc, follow_append, follow_append]
        simp only [List.singleton_append, follow_idle_name]
      rw [← stays, ← same, follow_append, followed]
      exact step
  rw [trail_eq_ok_iff, isRooted_join inhabited]
  refine ⟨zero_not_mem_join noZero isName.noZero, ?_, short, start, begun, ?_⟩
  · obtain ⟨joint, split, _⟩ := FilePath.exists_join_eq_append path name
    simp [split, inhabited]
  · rw [after, onward]

/-! ### Places -/

/-- The place that a path leads to, if it leads to one. -/
def resolve (tree : FileTree) (path : Text) : Option (List Text) :=
  (tree.trail path).toOption.map placeOf

theorem byteLength_le_joined (path : Text) (names : List Text) :
    Utf8.byteLength path ≤ Utf8.byteLength (FileNode.joined path names) := by
  induction names generalizing path with
  | nil => exact Nat.le_refl _
  | cons name later ih => exact Nat.le_trans (byteLength_le_join path name) (ih _)

/-- From a path to a node, names of entries lead on to the file that they lead to from the node. -/
theorem trail_joined {node : FileNode} {names : List Text} (held : node.Holds names)
    (tidy : node.Tidy) (areNames : ∀ name ∈ names, FilePath.IsName name) {path : Text}
    {trail : List (Text × FileNode)} (led : tree.trail path = .ok trail)
    (ends : top tree.root trail = node)
    (short : Utf8.byteLength (FileNode.joined path names) ≤ pathLimit) :
    ∃ onward, tree.trail (FileNode.joined path names) = .ok onward ∧
      placeOf onward = placeOf trail ++ names := by
  induction held generalizing path trail with
  | here bytes => exact ⟨trail, led, by simp⟩
  | @inside entries name node names listed held ih =>
      cases tidy with
      | folder distinct below =>
          have isName := areNames name List.mem_cons_self
          have within := Nat.le_trans (byteLength_le_joined (FilePath.join path name) names) short
          have next := trail_join led ends isName (lookup_of_mem distinct listed) within
          obtain ⟨onward, reached, place⟩ := ih (below _ listed)
            (fun other member => areNames other (List.mem_cons_of_mem name member)) next rfl short
          refine ⟨onward, reached, ?_⟩
          rw [place]
          simp [placeOf]

/-- Names of entries lead from a folder that a path leads to on to the places of its files. -/
theorem resolve_joined {path : Text} {place : List Text} (resolved : tree.resolve path = some place)
    {node : FileNode} (leads : tree.node path = .ok node) (tidy : node.Tidy) {names : List Text}
    (held : node.Holds names) (areNames : ∀ name ∈ names, FilePath.IsName name)
    (short : Utf8.byteLength (FileNode.joined path names) ≤ pathLimit) :
    tree.resolve (FileNode.joined path names) = some (place ++ names) := by
  cases led : tree.trail path with
  | error failure =>
      rw [resolve, led] at resolved
      cases resolved
  | ok trail =>
      rw [resolve, led] at resolved
      rw [FileTree.node, led] at leads
      obtain rfl := Option.some.inj resolved
      obtain ⟨onward, reached, goes⟩ := trail_joined held tidy areNames led (Except.ok.inj leads) short
      rw [resolve, reached, ← goes]
      rfl

end FileTree

end RepeatScan
