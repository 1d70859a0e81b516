import RepeatScan.Text.Pieces

set_option autoImplicit false

/-! Paths of files, as they are written. A path is cut into segments at slashes; empty segments and
single dots lead nowhere.

Paths and names are texts. A system may also name files by bytes that encode no text; such names are
left out, so that every extension can be compared and every path is spelled by its own characters. -/

namespace RepeatScan.FilePath

def segments (path : Text) : List Text :=
  Text.pieces '/' path

def isIdle (segment : Text) : Bool :=
  segment.isEmpty || segment == ['.']

def isRooted (path : Text) : Bool :=
  path.head? == some '/'

/-- The names that lead to a place one segment behind another place, both from the root. -/
def step (names : List Text) (segment : Text) : List Text :=
  if isIdle segment then names
  else if segment = ['.', '.'] then names.dropLast
  else names ++ [segment]

/-- The places that a path leads over, each by the names that lead to it from the root. -/
def stops (here : List Text) (path : Text) : List (List Text) :=
  let start := if isRooted path then [] else here
  ((segments path).foldl
    (fun (passed : List Text × List (List Text)) segment =>
      let names := step passed.1 segment
      (names, names :: passed.2))
    (start, [start])).2.reverse

/-- How a path reads when idle segments are left out, except for a dot at its beginning. -/
structure Spelling where
  rooted : Bool
  steps : List Text
  deriving DecidableEq, Repr

def spelling (path : Text) : Spelling :=
  let steps := (segments path).filter (!isIdle ·)
  ⟨isRooted path, if (segments path).head? = some ['.'] then ['.'] :: steps else steps⟩

def join (folder name : Text) : Text :=
  if folder.getLast? = some '/' then folder ++ name else folder ++ ['/'] ++ name

/-- The last step of a path, unless it leads upwards. -/
def fileName? (path : Text) : Option Text :=
  ((segments path).filter (!isIdle ·)).getLast?.filter (· ≠ ['.', '.'])

/-- The part of a file name behind its last dot, unless the name starts with that dot. -/
def extension? (path : Text) : Option Text :=
  (fileName? path).bind fun name =>
    match Text.pieces '.' name with
    | [] => none
    | [_] => none
    | [[], _] => none
    | parts => parts.getLast?

/-- Whether two texts are the same up to the case of the letters A to Z. -/
def sameLetters (left right : Text) : Bool :=
  left.map Char.toLower == right.map Char.toLower

/-- Whether a path has one of the wanted extensions, leading dots of which do not count. Any path
will do when nothing is wanted. -/
def hasExtension (wanted : List Text) (path : Text) : Bool :=
  wanted.isEmpty || (extension? path).any fun extension =>
    wanted.any fun candidate => sameLetters (candidate.dropWhile (· == '.')) extension

end RepeatScan.FilePath
