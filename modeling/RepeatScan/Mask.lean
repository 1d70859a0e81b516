import RepeatScan.Comment
import RepeatScan.Text.Lines
import RepeatScan.TokenStream

set_option autoImplicit false

/-! Masking a text. Comments go, every lexeme that starts with a letter or an underscore gives way to
a placeholder, and single spaces separate what is left. A line keeps the number it had in the
text, and a line without anything left is not listed. -/

namespace RepeatScan

/-- How a text is masked. -/
structure Mask where
  markers : List Text
  dropsBlocks : Bool
  placeholder : Text
  deriving DecidableEq, Repr

namespace Mask

/-- The mask that drops comments after a hash or two slashes and in blocks. -/
def standard : Mask where
  markers := [['#'], ['/', '/']]
  dropsBlocks := true
  placeholder := ['V', 'A', 'R']

def withoutComments (mask : Mask) (text : Text) : Text :=
  Comment.dropLineComments mask.markers (if mask.dropsBlocks then Comment.dropBlocks text else text)

/-- A lexeme names something when it starts with a letter or an underscore. -/
def isName (lexeme : Text) : Bool :=
  lexeme.head?.any fun character => Text.isLetter character || character == '_'

/-- The placeholder for a name, and every other lexeme as it is. -/
def maskLexeme (mask : Mask) (lexeme : Text) : Text :=
  if isName lexeme then mask.placeholder else lexeme

/-- The masked lexemes of a line, separated by spaces from the first one on that is not empty. -/
def maskLine (mask : Mask) (line : Text) : Text :=
  [' '].intercalate (((lexemes line).map mask.maskLexeme).dropWhile List.isEmpty)

/-- The number of the line at a position counted from zero; numbers have 32 bits. -/
def lineNumber (position : Nat) : Nat :=
  (position + 1) % UInt32.size

/-- The masked lines of a text, those that are empty left out. -/
def maskLines (mask : Mask) (text : Text) : List NumberedLine :=
  (Text.lines (mask.withoutComments text)).zipIdx.filterMap fun entry =>
    let masked := mask.maskLine entry.1
    if masked.isEmpty then none else some ⟨lineNumber entry.2, masked⟩

def maskText (mask : Mask) (text : Text) : Text :=
  [' '].intercalate ((mask.maskLines text).map (·.text))

def tokenStream (mask : Mask) (text : Text) : TokenStream :=
  .ofLines (mask.maskLines text)

end Mask

end RepeatScan
