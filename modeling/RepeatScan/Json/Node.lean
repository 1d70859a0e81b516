import RepeatScan.Json.Token

set_option autoImplicit false

/-! JSON texts as trees. A text that breaks off still has a tree, which ends where the text does: the
values on the way down to that place say that they are not complete. -/

namespace RepeatScan.Json

/-- A value that was read, as far as it goes. Arrays and objects say why they are not complete. -/
inductive Node where
  | null
  | bool (value : Bool)
  | number (numeral : Numeral)
  | string (content : Option Text)
  | array (items : List Node) (ending : Option Break)
  | object (members : List (Option Text × Node)) (ending : Option Break)
  | broken (cause : Break)

/-- A value that is open around the current place, with what it holds so far (last one first). -/
inductive Frame where
  | items (earlier : List Node)
  | members (earlier : List (Option Text × Node))
  | member (earlier : List (Option Text × Node)) (key : Option Text)

/-- What may come next. -/
inductive Expectation where
  | value
  | valueOrEnd
  | key
  | keyOrEnd
  | colon (key : Option Text)
  | separator
  deriving DecidableEq, Repr

/-- Either what may come next inside the open values, or the whole tree. -/
inductive Progress where
  | going (expected : Expectation) (frames : List Frame)
  | done (node : Node)

namespace Progress

def settle (node : Node) : List Frame → Progress
  | [] => .done node
  | .items earlier :: frames => .going .separator (.items (node :: earlier) :: frames)
  | .member earlier key :: frames => .going .separator (.members ((key, node) :: earlier) :: frames)
  | .members _ :: _ => .done node

/-- Ends all open values around one that is not complete. -/
def wrap (cause : Break) (node : Node) : List Frame → Node
  | [] => node
  | .items earlier :: frames => wrap cause (.array (node :: earlier).reverse (some cause)) frames
  | .member earlier key :: frames =>
      wrap cause (.object ((key, node) :: earlier).reverse (some cause)) frames
  | .members earlier :: frames => wrap cause (.object earlier.reverse (some cause)) frames

def breakValue (cause : Break) (frames : List Frame) : Progress :=
  .done (wrap cause (.broken cause) frames)

/-- Breaks off between the parts of the innermost open value. -/
def breakBetween (cause : Break) : List Frame → Progress
  | .items earlier :: frames => .done (wrap cause (.array earlier.reverse (some cause)) frames)
  | .members earlier :: frames => .done (wrap cause (.object earlier.reverse (some cause)) frames)
  | frames => breakValue cause frames

def misplaced : Break := ⟨.wrong, .wrong⟩

def takeValue (frames : List Frame) : Token → Progress
  | .openArray => .going .valueOrEnd (.items [] :: frames)
  | .openObject => .going .keyOrEnd (.members [] :: frames)
  | .null => settle .null frames
  | .bool value => settle (.bool value) frames
  | .number numeral => settle (.number numeral) frames
  | .string content => settle (.string content) frames
  | .broken _ cause => breakValue cause frames
  | _ => breakValue misplaced frames

def takeKey (frames : List Frame) : Token → Progress
  | .string key => .going (.colon key) frames
  | .broken true cause => breakBetween cause frames
  | _ => breakBetween misplaced frames

def takeColon (key : Option Text) (token : Token) : List Frame → Progress
  | .members earlier :: frames =>
      if token = .colon then .going .value (.member earlier key :: frames)
      else breakValue misplaced (.member earlier key :: frames)
  | frames => breakValue misplaced frames

/-- Takes a token behind a part of the innermost open value. -/
def takeSeparator (token : Token) : List Frame → Progress
  | .items earlier :: frames =>
      if token = .comma then .going .value (.items earlier :: frames)
      else if token = .closeArray then settle (.array earlier.reverse none) frames
      else breakBetween misplaced (.items earlier :: frames)
  | .members earlier :: frames =>
      if token = .comma then .going .key (.members earlier :: frames)
      else if token = .closeObject then settle (.object earlier.reverse none) frames
      else breakBetween misplaced (.members earlier :: frames)
  | frames => breakValue misplaced frames

def take (frames : List Frame) (token : Token) : Expectation → Progress
  | .value => takeValue frames token
  | .valueOrEnd =>
      if token = .closeArray then settle (.array [] none) frames.tail else takeValue frames token
  | .key => takeKey frames token
  | .keyOrEnd =>
      if token = .closeObject then settle (.object [] none) frames.tail else takeKey frames token
  | .colon key => takeColon key token frames
  | .separator => takeSeparator token frames

def stop (frames : List Frame) (expected : Expectation) : Node :=
  let cause : Break := ⟨.early, .early⟩
  let ended := match expected, frames with
    | .value, frames => breakValue cause frames
    | .colon key, .members earlier :: frames => breakValue cause (.member earlier key :: frames)
    | _, frames => breakBetween cause frames
  match ended with
  | .done node => node
  | .going _ _ => .broken cause

/-- The tree that tokens give, and the tokens behind it. -/
def build (expected : Expectation) (frames : List Frame) : List Token → Node × List Token
  | [] => (stop frames expected, [])
  | token :: later =>
      match take frames token expected with
      | .going expected frames => build expected frames later
      | .done node => (node, later)

end Progress

def Node.ofText (text : Text) : Node × List Token :=
  Progress.build .value [] (tokens text)

end RepeatScan.Json
