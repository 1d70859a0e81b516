import RepeatScan.Yaml.Token.Scan

set_option autoImplicit false

/-! Documents: the node that tokens make up. An anchor is numbered by how many names of anchors are
known before it, and an alias stands for the last node with the number of its name, which may be
further on when a name is given again. A text holds one document at most. -/

namespace RepeatScan.Yaml

/-- What nodes refer to: the handles of tags with what they stand for, and numbered nodes. -/
structure References where
  handles : List (Text × Text)
  nodes : List (Nat × Node)

/-- The tokens that are left, the names of anchors with their numbers, and the numbered nodes, the
last one first. -/
structure Cursor where
  tokens : List Token
  numbers : List (Text × Nat)
  nodes : List (Nat × Node)

/-- A reading of some of the tokens that are left. -/
abbrev Composing := StateT Cursor Option

namespace Composing

def peek : Composing (Option Token) := do
  return (← get).tokens.head?

def skip : Composing Unit :=
  modify fun cursor => { cursor with tokens := cursor.tokens.tail }

def expect (token : Token) : Composing Unit := do
  if (← peek) = some token then skip else failure

/-- The node that the name of an anchor stands for; nothing, as long as it is not known. -/
def anchored (references : References) (name : Text) : Composing Node := do
  match (← get).numbers.lookup name with
  | some number => return (references.nodes.lookup number).getD .void
  | none => failure

/-- Composes a node under an anchor, if it has one. The node keeps its place among those that are
composed within it. -/
def underAnchor (anchor : Option Text) (compose : Composing Node) : Composing Node := do
  match anchor with
  | none => compose
  | some name => do
      let before ← get
      let number := before.numbers.length
      set { before with
        numbers := (name, number) :: before.numbers.filter (·.1 ≠ name)
        nodes := (number, .void) :: before.nodes }
      let node ← compose
      modify fun cursor =>
        { cursor with
          nodes := cursor.nodes.set (cursor.nodes.length - 1 - before.nodes.length) (number, node) }
      return node

def expandTag (references : References) (handle suffix : Text) : Composing Text :=
  if handle.isEmpty then return suffix
  else match references.handles.lookup handle with
    | some expansion => return expansion ++ suffix
    | none => failure

/-- Reads the anchor and the tag before a node, in either order. -/
def properties (references : References) : Composing (Option Text × Option Text) := do
  match ← peek with
  | some (.anchor name) => do
      skip
      match ← peek with
      | some (.tag handle suffix) => do
          skip
          return (some name, some (← expandTag references handle suffix))
      | _ => return (some name, none)
  | some (.tag handle suffix) => do
      skip
      let tag ← expandTag references handle suffix
      match ← peek with
      | some (.anchor name) => do
          skip
          return (some name, some tag)
      | _ => return (none, some tag)
  | _ => return (none, none)

/-- The tag of a scalar; a lone exclamation mark stands for none. -/
def scalarTag (tag : Option Text) : Option Text :=
  tag.filter (· ≠ ['!'])

/-- Composes a node unless one of some tokens comes next; nothing stands there then. -/
def unless? (ends : List Token) (compose : Composing Node) : Composing Node := do
  match ← peek with
  | some token => if ends.contains token then return .void else compose
  | none => compose

mutual

/-- Composes a node. An indented list or map is not allowed everywhere, nor is a list that is no
further in than the map around it. -/
def node (references : References) : Nat → Bool → Bool → Composing Node
  | 0, _, _ => failure
  | depth + 1, indented, level => do
      if let some (.alias name) ← peek then
        skip
        return ← anchored references name
      let (anchor, tag) ← properties references
      underAnchor anchor do
        match ← peek with
        | some (.scalar style content) => do
            skip
            return .scalar (scalarTag tag) style content
        | some .item =>
            if level then return .sequence (← levelItems references depth)
            else empty anchor tag
        | some .openList => do
            skip
            return .sequence (← listItems references depth true)
        | some .openMap => do
            skip
            return .mapping (← mapEntries references depth true)
        | some .listStart =>
            if indented then do
              skip
              return .sequence (← blockItems references depth)
            else empty anchor tag
        | some .mapStart =>
            if indented then do
              skip
              return .mapping (← blockEntries references depth)
            else empty anchor tag
        | _ => empty anchor tag

/-- The node where nothing stands behind an anchor or a tag. -/
def empty (anchor tag : Option Text) : Composing Node :=
  if anchor.isSome || tag.isSome then return .scalar tag .plain [] else failure

def blockItems (references : References) : Nat → Composing (List Node)
  | 0 => failure
  | depth + 1 => do
      match ← peek with
      | some .item => do
          skip
          let first ← unless? [.item, .blockEnd] (node references depth true false)
          return first :: (← blockItems references depth)
      | _ => do
          expect .blockEnd
          return []

/-- Composes the items of a list that is no further in than the map around it. -/
def levelItems (references : References) : Nat → Composing (List Node)
  | 0 => failure
  | depth + 1 => do
      match ← peek with
      | some .item => do
          skip
          let first ← unless? [.item, .key, .value, .blockEnd] (node references depth true false)
          return first :: (← levelItems references depth)
      | _ => return []

def blockEntries (references : References) : Nat → Composing (List (Node × Node))
  | 0 => failure
  | depth + 1 => do
      match ← peek with
      | some .key => do
          skip
          let key ← unless? [.key, .value, .blockEnd] (node references depth true true)
          let value ← valueNode [.key, .value, .blockEnd] (node references depth true true)
          return (key, value) :: (← blockEntries references depth)
      | _ => do
          expect .blockEnd
          return []

/-- Composes the value behind a colon; without a colon there is none. -/
def valueNode (ends : List Token) (compose : Composing Node) : Composing Node := do
  match ← peek with
  | some .value => do
      skip
      unless? ends compose
  | _ => return .void

/-- Composes the items of a list in brackets. A key makes an item a map of one entry. -/
def listItems (references : References) : Nat → Bool → Composing (List Node)
  | 0, _ => failure
  | depth + 1, isFirst => do
      if (← peek) = some .closeList then
        skip
        return []
      if !isFirst then expect .comma
      match ← peek with
      | some .closeList => do
          skip
          return []
      | some .key => do
          skip
          let key ← unless? [.value, .comma, .closeList] (node references depth false false)
          let value ← valueNode [.comma, .closeList] (node references depth false false)
          return .mapping [(key, value)] :: (← listItems references depth false)
      | _ => do
          let first ← node references depth false false
          return first :: (← listItems references depth false)

/-- Composes the entries of a map in braces. An entry without a key mark has no value. -/
def mapEntries (references : References) : Nat → Bool → Composing (List (Node × Node))
  | 0, _ => failure
  | depth + 1, isFirst => do
      if (← peek) = some .closeMap then
        skip
        return []
      if !isFirst then expect .comma
      match ← peek with
      | some .closeMap => do
          skip
          return []
      | some .key => do
          skip
          let key ← unless? [.value, .comma, .closeMap] (node references depth false false)
          let value ← valueNode [.comma, .closeMap] (node references depth false false)
          return (key, value) :: (← mapEntries references depth false)
      | _ => do
          let key ← node references depth false false
          return (key, .void) :: (← mapEntries references depth false)

end

/-- The handles that can be used without a directive. -/
def knownHandles : List (Text × Text) :=
  [(['!'], ['!']), (['!', '!'], "tag:yaml.org,2002:".toList)]

/-- What the directives before a document say: whether there is one for the version, and the handles of
tags with what they stand for. -/
structure Directives where
  versioned : Bool
  handles : List (Text × Text)

/-- Goes on by a directive. One for the version comes once and names 1.1 or 1.2; a handle is declared
once. -/
def Directives.add (directives : Directives) : Token → Option Directives
  | .version major minor =>
      if directives.versioned || major != 1 || !(minor == 1 || minor == 2) then none
      else some { directives with versioned := true }
  | .shorthand handle expansion =>
      if (directives.handles.lookup handle).isSome then none
      else some { directives with handles := directives.handles ++ [(handle, expansion)] }
  | _ => none

def isDirective : Token → Bool
  | .version _ _ => true
  | .shorthand _ _ => true
  | _ => false

/-- Composes the node behind the mark of a document; nothing may stand there. -/
def content (references : References) (depth : Nat) : Composing Node := do
  match ← peek with
  | none => return .void
  | some (.document _) => return .void
  | some token => if isDirective token then return .void else node references depth true false

/-- Composes the node of a document, if the tokens hold one, given the nodes that its aliases stand
for. Directives have to be followed by the mark of a document. -/
def document (nodes : List (Nat × Node)) : Composing (Option Node) := do
  let tokens := (← get).tokens
  let depth := 2 * tokens.length + 2
  let leading := tokens.takeWhile isDirective
  match tokens.drop leading.length with
  | .document .start :: later => do
      let some directives := leading.foldlM Directives.add ⟨false, []⟩ | failure
      modify fun cursor => { cursor with tokens := later }
      return some (← content ⟨directives.handles ++ knownHandles, nodes⟩ depth)
  | _ => do
      if tokens.isEmpty then return none
      if !leading.isEmpty then failure
      return some (← node ⟨knownHandles, nodes⟩ depth true false)

end Composing

/-- The node of the one document that tokens hold, if they hold one, and its numbered nodes. Nothing
but marks for the end of the document may follow it. -/
def compose? (nodes : List (Nat × Node)) (tokens : List Token) :
    Option (Option Node × List (Nat × Node)) := do
  let (node, cursor) ← (Composing.document nodes).run ⟨tokens, [], []⟩
  if cursor.tokens.all (· = .document .stop) then return (node, cursor.nodes) else none

/-- Composes tokens time after time. An alias stands for a node of the time before, so that after
one time more than there are aliases all of them stand for their nodes. -/
def composeTimes? (tokens : List Token) : Nat → Option (Option Node × List (Nat × Node))
  | 0 => compose? [] tokens
  | times + 1 => do compose? (← composeTimes? tokens times).2 tokens

def isAlias : Token → Bool
  | .alias _ => true
  | _ => false

/-- The one document of a text: none if nothing is written, or its node. -/
def document? (text : Text) : Option (Option Node) := do
  let tokens ← tokens? text
  return (← composeTimes? tokens (tokens.countP isAlias)).1

end RepeatScan.Yaml
