import RepeatScan.Pattern.Brackets

set_option autoImplicit false

/-! Whole patterns: sequences of parts, which may be repeated, with alternatives and groups. The text of
a pattern holds no closing brace, so that nothing may stand in braces. -/

namespace RepeatScan.Pattern

/-- A group that is open: the modes around it, the depth of the deepest of its earlier alternatives,
the parts of the current one, and the depth of its last part if that may be repeated. -/
structure Group where
  around : Modes
  earlier : Option Nat
  parts : Parts
  last : Option Nat
  deriving DecidableEq, Repr

namespace Group

def start (around : Modes) : Group := ⟨around, none, .empty, none⟩

def add (group : Group) (depth : Nat) : Group :=
  { group with parts := group.parts.add depth, last := some depth }

/-- A group with flags behind its parts; they cannot be repeated. -/
def addFlags (group : Group) : Group :=
  { group with parts := group.parts.add 0, last := none }

def repeatLast? (group : Group) : Option Group :=
  group.last.map fun depth =>
    { group with
      parts := { group.parts with deepest := max group.parts.deepest (depth + 1) }
      last := some (depth + 1) }

def branch (group : Group) : Group :=
  { group with
    earlier := some (max (group.earlier.getD 0) group.parts.depth)
    parts := .empty
    last := none }

def depth (group : Group) : Nat :=
  group.parts.depthBehind group.earlier

end Group

/-- What an opening parenthesis may begin: a change of modes, or a group, perhaps with a name. -/
inductive Opening where
  | flags (modes : Modes)
  | group (modes : Modes) (name : Option Text)

namespace Opening

/-- Whether a text names a group: it starts with a letter or an underscore. -/
def isName : Text → Bool
  | [] => false
  | first :: later =>
      (first == '_' || Text.isLetter first) && later.all fun character =>
        "_.[]".toList.contains character || Text.isLetterOrNumeral character

/-- Reads the name of a group up to an angle bracket. -/
def named? (modes : Modes) (text : Text) : Option (Opening × Text) :=
  let name := text.takeWhile (· ≠ '>')
  match text.drop name.length with
  | _ :: rest => if isName name then some (.group modes name, rest) else none
  | [] => none

/-- Reads what stands behind an opening parenthesis. -/
def ofText (modes : Modes) (text : Text) : Option (Opening × Text) :=
  match modes.settle text with
  | '?' :: 'P' :: '<' :: rest => named? modes rest
  | '?' :: '<' :: rest => named? modes rest
  | '?' :: rest => do
      let (inner, closed, rest) ← modes.flagged? [] rest
      return (if closed then .flags inner else .group inner none, rest)
  | rest => some (.group modes none, rest)

end Opening

/-- What is read of a pattern: the modes, the names of groups, and the groups that are open, the
innermost one apart. -/
structure Progress where
  modes : Modes
  names : List Text
  group : Group
  outer : List Group

namespace Progress

def start : Progress := ⟨.standard, [], .start .standard, []⟩

def enter? (progress : Progress) : Opening → Option Progress
  | .flags modes => some { progress with modes := modes, group := progress.group.addFlags }
  | .group modes name =>
      if name.any progress.names.contains then none
      else
        some
          { modes := modes
            names := name.toList ++ progress.names
            group := .start progress.modes
            outer := progress.group :: progress.outer }

def leave? (progress : Progress) : Option Progress :=
  match progress.outer with
  | [] => none
  | around :: outer =>
      some
        { progress with
          modes := progress.group.around
          group := around.add (progress.group.depth + 1)
          outer := outer }

/-- Reads the part of a pattern that starts with a character. -/
def take? (progress : Progress) (character : Char) (rest : Text) : Option (Progress × Text) := do
  if character = '(' then
    let (opening, rest) ← Opening.ofText progress.modes rest
    return (← progress.enter? opening, rest)
  else if character = ')' then return (← progress.leave?, rest)
  else if character = '|' then return ({ progress with group := progress.group.branch }, rest)
  else if character = '[' then
    let (depth, rest) ← bracketed? progress.modes rest
    return ({ progress with group := progress.group.add depth }, rest)
  else if character ∈ ['?', '*', '+'] then
    let rest := if rest.head? = some '?' then rest.tail else rest
    return ({ progress with group := ← progress.group.repeatLast? }, rest)
  else if character = '\x7b' then none
  else
    let (atom, rest) ← Atom.start? progress.modes character rest
    if atom.fits progress.modes then
      return ({ progress with group := progress.group.add 0 }, rest)
    else none

/-- Reads up to a number of parts; the text has to end before that. -/
def run : Nat → Progress → Text → Option Progress
  | 0, _, _ => none
  | count + 1, progress, text =>
      match progress.modes.settle text with
      | [] => some progress
      | character :: rest => do
          let (progress, rest) ← progress.take? character rest
          run count progress rest

def isComplete (progress : Progress) : Bool :=
  progress.outer.isEmpty && progress.group.depth ≤ depthLimit

end Progress

/-- Whether a text is a pattern. Each of its parts takes a character at least. -/
def isPattern (text : Text) : Bool :=
  (Progress.run (text.length + 1) .start text).any (·.isComplete)

end RepeatScan.Pattern
