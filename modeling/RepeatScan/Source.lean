import RepeatScan.File.Tree
import RepeatScan.Text.Decimal

set_option autoImplicit false

/-! Sources of a run. A source has an identifier and says where its text comes from; one whose text
cannot be had gives a diagnostic. -/

namespace RepeatScan

/-- Where the text of a source comes from. -/
inductive Origin where
  | text (given : Text)
  | bytes (given : ByteArray)
  | path (given : Text)

/-- Origins of two kinds are never equal, and those of one kind when they hold the same. -/
instance Origin.decidableEq : DecidableEq Origin
  | .text left, .text right => decidable_of_iff (left = right) (by simp)
  | .bytes left, .bytes right =>
      decidable_of_iff (left.data = right.data) (by simp [ByteArray.ext_iff])
  | .path left, .path right => decidable_of_iff (left = right) (by simp)
  | .text _, .bytes _ | .text _, .path _ | .bytes _, .text _ | .bytes _, .path _
  | .path _, .text _ | .path _, .bytes _ => isFalse (by simp)

/-- An input of a run. -/
structure Source where
  id : Text
  origin : Origin
  deriving DecidableEq

/-- Why the text of a source cannot be had. -/
inductive SourceError where
  | unreadable (failure : ReadFailure)
  | undecodable (validBytes : Nat)
  deriving DecidableEq, Repr

/-- A source that was left out of a run, and why. -/
structure Diagnostic where
  source : Text
  error : SourceError
  deriving DecidableEq, Repr

def SourceError.message : SourceError → Text
  | .unreadable failure => "cannot read source: ".toList ++ failure.message
  | .undecodable validBytes =>
      "source is not valid UTF-8 (valid up to byte ".toList ++ Text.decimal validBytes ++ [')']

def Diagnostic.display (diagnostic : Diagnostic) : Text :=
  diagnostic.source ++ [':', ' '] ++ diagnostic.error.message

def SourceError.decode (bytes : ByteArray) : Except SourceError Text :=
  (Utf8.decode bytes).mapError .undecodable

def Origin.load (files : FileTree) : Origin → Except SourceError Text
  | .text given => .ok given
  | .bytes given => SourceError.decode given
  | .path given =>
      match files.read given with
      | .ok content => SourceError.decode content
      | .error failure => .error (.unreadable failure)

/-- A source that is a file; its path is its identifier. -/
def Source.ofPath (path : Text) : Source := ⟨path, .path path⟩

end RepeatScan
