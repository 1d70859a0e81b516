import RepeatScan.File.Path
import RepeatScan.ReadFailure
import RepeatScan.Text.Order
import RepeatScan.Text.Utf8

set_option autoImplicit false

/-! Trees of files and folders, and where a path leads in them. A path is followed segment by segment
from the root or from the current folder; every segment needs a folder to start from. Entries whose
names encode no text are left out. -/

namespace RepeatScan

/-- A file with its bytes, or a folder with its entries by name. -/
inductive FileNode where
  | file (bytes : ByteArray)
  | folder (entries : List (Text × FileNode))

namespace FileNode

def emptyFolder : FileNode := .folder []

/-- The entries of a folder with the node of one name replaced or added. -/
def setEntry (name : Text) (node : FileNode) : List (Text × FileNode) → List (Text × FileNode)
  | [] => [(name, node)]
  | (known, old) :: later =>
      if known = name then (name, node) :: later else (known, old) :: setEntry name node later

def entries : FileNode → List (Text × FileNode)
  | .file _ => []
  | .folder entries => entries

/-- The node with another one at the end of a chain of names; folders on the way are added. A folder
that is already there is kept when an empty one is to be put in its place. -/
def insert (leaf : FileNode) : List Text → FileNode → FileNode
  | [], node =>
      match leaf, node with
      | .folder [], .folder entries => .folder entries
      | _, _ => leaf
  | name :: names, node =>
      let below := (node.entries.lookup name).getD emptyFolder
      .folder (setEntry name (insert leaf names below) node.entries)

mutual

/-- The paths of the files at and below a node, a folder's entries ordered by name. -/
def filesBelow (path : Text) : FileNode → List Text
  | .file _ => [path]
  | .folder entries =>
      ((entriesBelow path entries).mergeSort fun left right => left.1.precedes right.1).flatMap (·.2)

def entriesBelow (path : Text) : List (Text × FileNode) → List (Text × List Text)
  | [] => []
  | (name, node) :: later =>
      (name, filesBelow (FilePath.join path name) node) :: entriesBelow path later

end

end FileNode

/-- A tree of files and the names that lead from its root to the current folder. -/
structure FileTree where
  root : FileNode
  here : List Text

/-- What tells files apart: the names that lead to a file from the root, or the spelling of a path
that leads nowhere. -/
inductive FileKey where
  | place (names : List Text)
  | spelled (spelling : FilePath.Spelling)
  deriving DecidableEq, Repr

namespace FileTree

/-- The tree without files. The name of its current folder holds a slash, so that no path can spell
it. -/
def empty : FileTree := ⟨.folder [(['/'], .emptyFolder)], [['/']]⟩

def nameLimit : Nat := 255

def pathLimit : Nat := 4095

/-- Follows segments from the last folder of a trail. The trail names what was passed, the last name
first, each with its node. -/
def follow (root : FileNode) (trail : List (Text × FileNode)) :
    List Text → Except ReadFailure (List (Text × FileNode))
  | [] => .ok trail
  | segment :: later =>
      match (trail.head?.map (·.2)).getD root with
      | .file _ => .error .notDirectory
      | .folder entries =>
          if FilePath.isIdle segment then follow root trail later
          else if segment = ['.', '.'] then follow root trail.tail later
          else if nameLimit < Utf8.byteLength segment then .error .nameTooLong
          else match entries.lookup segment with
            | none => .error .missing
            | some node => follow root ((segment, node) :: trail) later

/-- Where a path leads: the names from the root on, the last one first, each with its node. -/
def trail (tree : FileTree) (path : Text) : Except ReadFailure (List (Text × FileNode)) := do
  if path.contains '\x00' then throw .nameHasZero
  if path.isEmpty then throw .missing
  if pathLimit < Utf8.byteLength path then throw .nameTooLong
  let start ← if FilePath.isRooted path then .ok [] else follow tree.root [] tree.here
  follow tree.root start (FilePath.segments path)

def node (tree : FileTree) (path : Text) : Except ReadFailure FileNode :=
  (tree.trail path).map fun trail => (trail.head?.map (·.2)).getD tree.root

def read (tree : FileTree) (path : Text) : Except ReadFailure ByteArray :=
  match tree.node path with
  | .ok (.file bytes) => .ok bytes
  | .ok (.folder _) => .error .isDirectory
  | .error failure => .error failure

def readText (tree : FileTree) (path : Text) : Except ReadFailure Text :=
  match tree.read path with
  | .ok bytes => (Utf8.decode bytes).mapError fun _ => .notUnicode
  | .error failure => .error failure

def key (tree : FileTree) (path : Text) : FileKey :=
  match tree.trail path with
  | .ok trail => .place (trail.map (·.1)).reverse
  | .error _ => .spelled (FilePath.spelling path)

def insertAt (tree : FileTree) (names : List Text) (leaf : FileNode) : FileTree :=
  { tree with root := .insert leaf names tree.root }

def insert (tree : FileTree) (path : Text) (leaf : FileNode) : FileTree :=
  tree.insertAt (tree.here ++ (FilePath.segments path).filter (!FilePath.isIdle ·)) leaf

/-- The paths whose files are not those of earlier paths. -/
def distinct (tree : FileTree) (paths : List Text) : List Text :=
  (paths.foldl
    (fun (seen : List FileKey × List Text) path =>
      let key := tree.key path
      if key ∈ seen.1 then seen else (key :: seen.1, path :: seen.2))
    ([], [])).2.reverse

/-- The files that a path stands for: those below a folder that have a wanted extension, and the path
itself if it is no folder. -/
def expand (tree : FileTree) (wanted : List Text) (path : Text) : List Text :=
  match tree.node path with
  | .ok (.folder entries) =>
      (FileNode.filesBelow path (.folder entries)).filter (FilePath.hasExtension wanted)
  | _ => [path]

def collect (tree : FileTree) (wanted paths : List Text) : List Text :=
  tree.distinct (paths.flatMap (tree.expand wanted))

end FileTree

end RepeatScan
