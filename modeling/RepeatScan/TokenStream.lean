import RepeatScan.Lexeme
import RepeatScan.LineRange

set_option autoImplicit false

/-! The tokens of one source, in order, each with the line it stands on. Ranges of positions reach
from a first position up to one that is no longer included, and are cut off at the end of the
stream. -/

namespace RepeatScan

abbrev Token := Text

/-- A token and the line it stands on. -/
structure PlacedToken where
  text : Token
  line : Nat
  deriving DecidableEq, Repr

/-- A line of text and its number. -/
structure NumberedLine where
  number : Nat
  text : Text
  deriving DecidableEq, Repr

/-- The tokens of a source in order. -/
structure TokenStream where
  entries : List PlacedToken
  deriving DecidableEq, Repr

namespace TokenStream

def empty : TokenStream := ⟨[]⟩

/-- A stream of tokens that all stand on the first line. -/
def ofTokens (tokens : List Token) : TokenStream :=
  ⟨tokens.map fun token => ⟨token, 1⟩⟩

def ofLines (lines : List NumberedLine) : TokenStream :=
  ⟨lines.flatMap fun line => (words line.text).map fun word => ⟨word, line.number⟩⟩

def push (stream : TokenStream) (token : Token) (line : Nat) : TokenStream :=
  ⟨stream.entries ++ [⟨token, line⟩]⟩

def length (stream : TokenStream) : Nat :=
  stream.entries.length

def tokens (stream : TokenStream) : List Token :=
  stream.entries.map (·.text)

def lineOf? (stream : TokenStream) (position : Nat) : Option Nat :=
  stream.entries[position]?.map (·.line)

def slice (stream : TokenStream) (start stop : Nat) : List Token :=
  (stream.tokens.take stop).drop start

/-- The lines that the tokens from one position up to another stand on. -/
def lineRange (stream : TokenStream) (start stop : Nat) : LineRange :=
  match (stream.entries.take stop).drop start with
  | [] => .zero
  | first :: later => ⟨first.line, ((first :: later).getLast (by simp)).line⟩

@[simp]
theorem length_tokens (stream : TokenStream) : stream.tokens.length = stream.length := by
  simp [tokens, length]

theorem tokens_ofLines (lines : List NumberedLine) :
    (ofLines lines).tokens = lines.flatMap fun line => words line.text := by
  simp [tokens, ofLines, List.map_flatMap, Function.comp_def]

end TokenStream

end RepeatScan
