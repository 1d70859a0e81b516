import RepeatScan.Proofs.File.Resolution

set_option autoImplicit false

/-! Tidy trees. Where no folder has two entries of one name, all paths lead to nodes with that property,
and it stays when a tidy node is put somewhere, so trees can carry it. -/

namespace RepeatScan

namespace FileNode

variable {name : Text} {node leaf : FileNode} {entries : List (Text × FileNode)}

/-! ### Nodes that are put somewhere -/

theorem mem_setEntry {entry : Text × FileNode} (member : entry ∈ setEntry name node entries) :
    entry = (name, node) ∨ entry ∈ entries := by
  induction entries with
  | nil => exact .inl (List.mem_singleton.mp member)
  | cons first later ih =>
      rw [setEntry] at member
      split at member
      · rcases List.mem_cons.mp member with same | inLater
        · exact .inl same
        · exact .inr (List.mem_cons_of_mem _ inLater)
      · rcases List.mem_cons.mp member with rfl | inLater
        · exact .inr List.mem_cons_self
        · exact (ih inLater).imp_right (List.mem_cons_of_mem _)

theorem nodup_setEntry (distinct : (entries.map (·.1)).Nodup) :
    ((setEntry name node entries).map (·.1)).Nodup := by
  induction entries with
  | nil => simp [setEntry]
  | cons first later ih =>
      obtain ⟨apart, others⟩ := List.nodup_cons.mp distinct
      rw [setEntry]
      split
      · rename_i same
        rw [List.map_cons, List.nodup_cons]
        exact ⟨same ▸ apart, others⟩
      · rename_i other
        rw [List.map_cons, List.nodup_cons]
        refine ⟨fun again => ?_, ih others⟩
        obtain ⟨entry, member, named⟩ := List.mem_map.mp again
        rcases mem_setEntry member with rfl | inLater
        · exact other named.symm
        · exact apart (List.mem_map.mpr ⟨entry, inLater, named⟩)

theorem tidy_emptyFolder : emptyFolder.Tidy :=
  .folder List.nodup_nil (by simp)

theorem Tidy.nodup_entries (tidy : node.Tidy) : (node.entries.map (·.1)).Nodup := by
  cases tidy with
  | file bytes => exact List.nodup_nil
  | folder distinct below => exact distinct

theorem Tidy.tidy_entries (tidy : node.Tidy) : ∀ entry ∈ node.entries, entry.2.Tidy := by
  cases tidy with
  | file bytes => simp [entries]
  | folder distinct below => exact below

theorem Tidy.tidy_lookup (tidy : node.Tidy) (name : Text) :
    ((node.entries.lookup name).getD emptyFolder).Tidy := by
  cases found : node.entries.lookup name with
  | none => exact tidy_emptyFolder
  | some below => exact tidy.tidy_entries _ (mem_of_lookup found)

/-- A tidy node that is put somewhere in another one leaves it tidy. -/
theorem tidy_insert (added : leaf.Tidy) {names : List Text} (tidy : node.Tidy) :
    (insert leaf names node).Tidy := by
  induction names generalizing node with
  | nil =>
      unfold insert
      split
      · exact tidy
      · exact added
  | cons name later ih =>
      rw [insert]
      refine .folder (nodup_setEntry tidy.nodup_entries) fun entry member => ?_
      rcases mem_setEntry member with rfl | known
      · exact ih (tidy.tidy_lookup name)
      · exact tidy.tidy_entries entry known

end FileNode

/-- A tree of files whose folders have no two entries of one name. -/
structure TidyTree extends FileTree where
  tidy : root.Tidy

namespace TidyTree

def insertAt (tree : TidyTree) (names : List Text) (leaf : FileNode) (added : leaf.Tidy) :
    TidyTree where
  toFileTree := tree.toFileTree.insertAt names leaf
  tidy := FileNode.tidy_insert added tree.tidy

end TidyTree

/-! ### Nodes that paths lead to -/

namespace FileTree

variable {root : FileNode}

theorem tidy_top (whole : root.Tidy) {trail : List (Text × FileNode)}
    (tidy : ∀ entry ∈ trail, entry.2.Tidy) : (top root trail).Tidy := by
  cases trail with
  | nil => exact whole
  | cons entry later => exact tidy entry List.mem_cons_self

theorem tidy_follow (whole : root.Tidy) {trail : List (Text × FileNode)}
    (tidy : ∀ entry ∈ trail, entry.2.Tidy) {segments : List Text} {passed : List (Text × FileNode)}
    (followed : follow root trail segments = .ok passed) : ∀ entry ∈ passed, entry.2.Tidy := by
  induction segments generalizing trail with
  | nil =>
      obtain rfl := Except.ok.inj followed
      exact tidy
  | cons segment later ih =>
      have last := tidy_top whole tidy
      rw [follow] at followed
      split at followed
      · cases followed
      · rename_i entries folder
        split at followed
        · exact ih tidy followed
        · split at followed
          · exact ih (fun entry member => tidy entry (List.mem_of_mem_tail member)) followed
          · split at followed
            · cases followed
            · split at followed
              · cases followed
              · rename_i node found
                have below : node.Tidy := by
                  rw [top, folder] at last
                  cases last with
                  | folder _ below => exact below _ (mem_of_lookup found)
                refine ih (fun entry member => ?_) followed
                rcases List.mem_cons.mp member with rfl | earlier
                · exact below
                · exact tidy entry earlier

end FileTree

/-- In a tidy tree all paths lead to tidy nodes. -/
theorem TidyTree.tidy_node (tree : TidyTree) {path : Text} {node : FileNode}
    (leads : tree.node path = .ok node) : node.Tidy := by
  cases led : tree.trail path with
  | error failure =>
      rw [FileTree.node, led] at leads
      cases leads
  | ok trail =>
      rw [FileTree.node, led] at leads
      obtain ⟨_, _, _, start, begun, followed⟩ := FileTree.trail_eq_ok_iff.mp led
      have first : ∀ entry ∈ start, entry.2.Tidy := by
        by_cases rooted : FilePath.isRooted path = true
        · rw [if_pos rooted] at begun
          obtain rfl := Except.ok.inj begun
          simp
        · rw [if_neg rooted] at begun
          exact FileTree.tidy_follow tree.tidy (by simp) begun
      have ends : FileTree.top tree.root trail = node := Except.ok.inj leads
      rw [← ends]
      exact FileTree.tidy_top tree.tidy (FileTree.tidy_follow tree.tidy first followed)

end RepeatScan
