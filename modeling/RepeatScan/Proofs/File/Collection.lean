import Mathlib.Data.List.Forall2
import Mathlib.Data.List.Induction
import RepeatScan.Proofs.File.Tidy

set_option autoImplicit false

/-! The files that arguments stand for. A folder offers its files that have a wanted extension, in the
order of a walk, and anything else offers itself. Of all that is offered the first path for each file is
kept. Main statement: nothing that is offered is lost or kept twice, and arguments that offer only what
is kept already change nothing. -/

namespace RepeatScan.FileTree

variable {tree : FileTree}

/-- Paths that stand for one file: both lead to the same place, or both lead nowhere and read alike. -/
def Alias (tree : FileTree) (left right : Text) : Prop :=
  match tree.resolve left, tree.resolve right with
  | some place, some other => place = other
  | none, none => FilePath.spelling left = FilePath.spelling right
  | _, _ => False

theorem key_eq_iff {left right : Text} : tree.key left = tree.key right ↔ tree.Alias left right := by
  unfold key Alias resolve
  cases tree.trail left with
  | error _ =>
      cases tree.trail right with
      | error _ => simp [Except.toOption]
      | ok _ => simp [Except.toOption]
  | ok _ =>
      cases tree.trail right with
      | error _ => simp [Except.toOption]
      | ok _ => simp [Except.toOption, placeOf]

theorem Alias.resolve_eq {left right : Text} (same : tree.Alias left right) {place : List Text}
    (resolved : tree.resolve right = some place) : tree.resolve left = some place := by
  unfold Alias at same
  rw [resolved] at same
  cases found : tree.resolve left with
  | none =>
      rw [found] at same
      cases same
  | some other =>
      rw [found] at same
      rw [same]

/-! ### The first path for each file -/

/-- The keys of some paths, and the paths whose keys were new, each last one first. -/
def gather (tree : FileTree) (paths : List Text) : List FileKey × List Text :=
  paths.foldl
    (fun (seen : List FileKey × List Text) path =>
      if tree.key path ∈ seen.1 then seen else (tree.key path :: seen.1, path :: seen.2))
    ([], [])

theorem distinct_eq_gather (paths : List Text) :
    tree.distinct paths = (tree.gather paths).2.reverse := rfl

theorem gather_concat (paths : List Text) (path : Text) :
    tree.gather (paths ++ [path]) =
      if tree.key path ∈ (tree.gather paths).1 then tree.gather paths
      else (tree.key path :: (tree.gather paths).1, path :: (tree.gather paths).2) := by
  rw [gather, List.foldl_append]
  rfl

theorem mem_gather {paths : List Text} {key : FileKey} :
    key ∈ (tree.gather paths).1 ↔ ∃ path ∈ paths, tree.key path = key := by
  induction paths using List.reverseRecOn with
  | nil => simp [gather]
  | append_singleton paths path ih =>
      rw [gather_concat]
      by_cases seen : tree.key path ∈ (tree.gather paths).1
      · rw [if_pos seen, ih]
        constructor
        · rintro ⟨other, listed, same⟩
          exact ⟨other, List.mem_append_left _ listed, same⟩
        · rintro ⟨other, listed, rfl⟩
          rcases List.mem_append.mp listed with earlier | last
          · exact ⟨other, earlier, rfl⟩
          · rw [List.mem_singleton.mp last] at ih ⊢
            exact ih.mp seen
      · rw [if_neg seen, List.mem_cons, ih]
        simp [or_comm, eq_comm]

theorem distinct_concat_of_seen {paths : List Text} {path : Text}
    (seen : ∃ earlier ∈ paths, tree.key earlier = tree.key path) :
    tree.distinct (paths ++ [path]) = tree.distinct paths := by
  rw [distinct_eq_gather, gather_concat, if_pos (mem_gather.mpr seen)]
  rfl

theorem distinct_concat_of_new {paths : List Text} {path : Text}
    (new : ¬ ∃ earlier ∈ paths, tree.key earlier = tree.key path) :
    tree.distinct (paths ++ [path]) = tree.distinct paths ++ [path] := by
  rw [distinct_eq_gather, gather_concat, if_neg (mt mem_gather.mp new)]
  simp [distinct_eq_gather]

theorem distinct_sublist (paths : List Text) : (tree.distinct paths).Sublist paths := by
  induction paths using List.reverseRecOn with
  | nil => exact List.Sublist.refl []
  | append_singleton paths path ih =>
      by_cases seen : ∃ earlier ∈ paths, tree.key earlier = tree.key path
      · rw [distinct_concat_of_seen seen]
        exact ih.trans (List.sublist_append_left paths [path])
      · rw [distinct_concat_of_new seen]
        exact ih.append (List.Sublist.refl [path])

theorem pairwise_distinct (paths : List Text) :
    (tree.distinct paths).Pairwise fun left right => tree.key left ≠ tree.key right := by
  induction paths using List.reverseRecOn with
  | nil => exact List.Pairwise.nil
  | append_singleton paths path ih =>
      by_cases seen : ∃ earlier ∈ paths, tree.key earlier = tree.key path
      · rwa [distinct_concat_of_seen seen]
      · rw [distinct_concat_of_new seen, List.pairwise_append]
        refine ⟨ih, List.pairwise_singleton _ path, ?_⟩
        intro left kept right last same
        rw [List.mem_singleton.mp last] at same
        exact seen ⟨left, (distinct_sublist paths).subset kept, same⟩

/-- The first of some paths that stands for the same file as a given one. -/
def IsFirst (tree : FileTree) (paths : List Text) (path first : Text) : Prop :=
  ∃ before after, paths = before ++ first :: after ∧ tree.Alias first path ∧
    ∀ earlier ∈ before, ¬ tree.Alias earlier path

theorem IsFirst.concat {paths : List Text} {path first : Text}
    (isFirst : tree.IsFirst paths path first) (last : Text) :
    tree.IsFirst (paths ++ [last]) path first := by
  obtain ⟨before, after, rfl, same, others⟩ := isFirst
  exact ⟨before, after ++ [last], by simp, same, others⟩

theorem exists_isFirst {paths : List Text} {path : Text} (listed : path ∈ paths) :
    ∃ kept ∈ tree.distinct paths, tree.IsFirst paths path kept := by
  induction paths using List.reverseRecOn generalizing path with
  | nil => cases listed
  | append_singleton paths last ih =>
      -- Whatever stands for the same file as an earlier path has that path's first one.
      have earlier : ∀ other ∈ paths, tree.key other = tree.key path →
          ∃ kept ∈ tree.distinct (paths ++ [last]), tree.IsFirst (paths ++ [last]) path kept := by
        intro other member same
        obtain ⟨kept, stays, before, after, split, own, others⟩ := ih member
        have first : tree.IsFirst paths path kept := by
          refine ⟨before, after, split, key_eq_iff.mp ((key_eq_iff.mpr own).trans same), ?_⟩
          intro sooner inBefore alike
          exact others sooner inBefore
            (key_eq_iff.mp ((key_eq_iff.mpr alike).trans same.symm))
        refine ⟨kept, ?_, first.concat last⟩
        by_cases seen : ∃ sooner ∈ paths, tree.key sooner = tree.key last
        · rwa [distinct_concat_of_seen seen]
        · rw [distinct_concat_of_new seen]
          exact List.mem_append_left _ stays
      rcases List.mem_append.mp listed with before | isLast
      · exact earlier path before rfl
      · rw [List.mem_singleton] at isLast
        subst isLast
        by_cases seen : ∃ sooner ∈ paths, tree.key sooner = tree.key path
        · obtain ⟨other, member, same⟩ := seen
          exact earlier other member same
        · refine ⟨path, ?_, paths, [], rfl, key_eq_iff.mp rfl, ?_⟩
          · rw [distinct_concat_of_new seen]
            exact List.mem_append_right _ (List.mem_singleton_self path)
          · intro sooner member same
            exact seen ⟨sooner, member, key_eq_iff.mpr same⟩

theorem distinct_append_of_seen {paths more : List Text}
    (seen : ∀ path ∈ more, ∃ earlier ∈ paths, tree.key earlier = tree.key path) :
    tree.distinct (paths ++ more) = tree.distinct paths := by
  induction more using List.reverseRecOn with
  | nil => rw [List.append_nil]
  | append_singleton more path ih =>
      obtain ⟨earlier, listed, same⟩ := seen path (by simp)
      rw [← List.append_assoc, distinct_concat_of_seen ⟨earlier, List.mem_append_left _ listed, same⟩]
      exact ih fun other member => seen other (List.mem_append_left _ member)

/-! ### What arguments offer -/

/-- A path to a folder offers the files of a walk that have a wanted extension; any other path, whether
it leads anywhere or not, offers itself. -/
inductive Offers (tree : FileTree) (wanted : List Text) (path : Text) : List Text → Prop
  | itself (noFolder : ∀ entries, tree.node path ≠ .ok (.folder entries)) :
      Offers tree wanted path [path]
  | files {entries : List (Text × FileNode)} {walk : List (List Text)}
      (leads : tree.node path = .ok (.folder entries)) (ordered : walk.Pairwise FileNode.Before)
      (complete : ∀ names, names ∈ walk ↔ (FileNode.folder entries).Holds names) :
      Offers tree wanted path
        ((walk.map (FileNode.joined path)).filter (FilePath.hasExtension wanted))

theorem offers_expand (tree : TidyTree) (wanted : List Text) (path : Text) :
    tree.Offers wanted path (tree.expand wanted path) := by
  unfold expand
  cases leads : tree.node path with
  | error failure => exact .itself (by simp [leads])
  | ok node =>
      cases node with
      | file bytes => exact .itself (by simp [leads])
      | folder entries =>
          simp only [FileNode.filesBelow_eq_map]
          exact .files leads (FileNode.pairwise_walk (tree.tidy_node leads))
            (FileNode.mem_walk (.folder entries))

theorem mem_expand_joined {path : Text} {entries : List (Text × FileNode)}
    (leads : tree.node path = .ok (.folder entries)) {names : List Text}
    (held : (FileNode.folder entries).Holds names) {wanted : List Text}
    (suits : FilePath.hasExtension wanted (FileNode.joined path names) = true) :
    FileNode.joined path names ∈ tree.expand wanted path := by
  unfold expand
  rw [leads]
  simp only [FileNode.filesBelow_eq_map, List.mem_filter]
  exact ⟨List.mem_map_of_mem ((FileNode.mem_walk _ names).mpr held), suits⟩

/-- What is collected are paths that the arguments offer, in their order, and for every path that is
offered the first one for the same file, but no two for one file. So each file below a folder, with a
wanted extension and a path that is not too long, is at the place that some collected path leads to.
Further arguments that offer nothing new change nothing. -/
theorem collect_complete (tree : TidyTree) (wanted paths : List Text) :
    (∃ offers, List.Forall₂ (tree.Offers wanted) paths offers ∧
        (tree.collect wanted paths).Sublist offers.flatten ∧
        ∀ path ∈ offers.flatten,
          ∃ kept ∈ tree.collect wanted paths, tree.IsFirst offers.flatten path kept) ∧
      (tree.collect wanted paths).Pairwise (fun left right => ¬ tree.Alias left right) ∧
      (∀ path ∈ paths, ∀ place entries, tree.resolve path = some place →
        tree.node path = .ok (.folder entries) →
        ∀ names, (FileNode.folder entries).Holds names → (∀ name ∈ names, FilePath.IsName name) →
          FilePath.hasExtension wanted (FileNode.joined path names) = true →
          Utf8.byteLength (FileNode.joined path names) ≤ pathLimit →
          ∃ kept ∈ tree.collect wanted paths, tree.resolve kept = some (place ++ names)) ∧
      ∀ more, (∀ path ∈ more, ∀ offer, tree.Offers wanted path offer →
          ∀ candidate ∈ offer, ∃ kept ∈ tree.collect wanted paths, tree.Alias kept candidate) →
        tree.collect wanted (paths ++ more) = tree.collect wanted paths := by
  refine ⟨⟨paths.map (tree.expand wanted), ?_, ?_, ?_⟩, ?_, ?_, ?_⟩
  · rw [List.forall₂_map_right_iff, List.forall₂_same]
    exact fun path _ => offers_expand tree wanted path
  · exact distinct_sublist _
  · exact fun path offered => exists_isFirst offered
  · exact (pairwise_distinct _).imp fun apart => mt key_eq_iff.mpr apart
  · intro path listed place entries resolved leads names held areNames suits short
    have offered : FileNode.joined path names ∈ paths.flatMap (tree.expand wanted) :=
      List.mem_flatMap.mpr ⟨path, listed, mem_expand_joined leads held suits⟩
    obtain ⟨kept, stays, _, _, _, same, _⟩ := exists_isFirst offered
    exact ⟨kept, stays, same.resolve_eq
      (resolve_joined resolved leads (tree.tidy_node leads) held areNames short)⟩
  · intro more covered
    unfold collect
    rw [List.flatMap_append]
    apply distinct_append_of_seen
    intro candidate offered
    obtain ⟨path, listed, inOffer⟩ := List.mem_flatMap.mp offered
    obtain ⟨kept, stays, same⟩ := covered path listed _ (offers_expand tree wanted path) candidate
      inOffer
    exact ⟨kept, (distinct_sublist _).subset stays, key_eq_iff.mpr same⟩

/-- A folder with two files that have an extension and one that has none. -/
def smallTree : TidyTree :=
  ["b.py", "a.py", "c"].foldl
    (fun tree name => tree.insertAt ["d".toList, name.toList] (.file .empty) (.file .empty))
    ⟨⟨.emptyFolder, []⟩, FileNode.tidy_emptyFolder⟩

def smallPaths : List Text := ["missing".toList, "./d/b.py".toList, "d".toList]

theorem expand_smallTree :
    smallTree.expand ["py".toList] "d".toList = ["d/a.py".toList, "d/b.py".toList] := by
  let entries : List (Text × FileNode) :=
    [("b.py".toList, .file .empty), ("a.py".toList, .file .empty), ("c".toList, .file .empty)]
  have leads : smallTree.node "d".toList = .ok (.folder entries) := rfl
  have walked : (FileNode.folder entries).walk =
      [["a.py".toList], ["b.py".toList], ["c".toList]] := by
    simp [entries, FileNode.walk, FileNode.walkEntries, List.mergeSort, Text.precedes]
  unfold expand
  simp only [leads, FileNode.filesBelow_eq_map, walked]
  decide +kernel

theorem collect_complete_overlapping :
    smallTree.collect ["py".toList] smallPaths =
        ["missing".toList, "./d/b.py".toList, "d/a.py".toList] ∧
      smallTree.collect ["py".toList] (smallPaths ++ ["d/../d/a.py".toList]) =
        smallTree.collect ["py".toList] smallPaths := by
  have found : smallTree.collect ["py".toList] smallPaths =
      ["missing".toList, "./d/b.py".toList, "d/a.py".toList] := by
    simp only [collect, smallPaths, List.flatMap_cons, List.flatMap_nil, expand_smallTree]
    decide +kernel
  refine ⟨found, ?_⟩
  apply (collect_complete smallTree ["py".toList] smallPaths).2.2.2
  intro path listed offer offers candidate member
  rw [List.mem_singleton.mp listed] at offers
  cases offers with
  | itself noFolder =>
      rw [List.mem_singleton.mp member, found]
      exact ⟨"d/a.py".toList, by simp, rfl⟩
  | files leads _ _ => cases leads

end RepeatScan.FileTree
