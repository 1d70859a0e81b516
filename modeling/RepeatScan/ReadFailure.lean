import RepeatScan.Text.CodeRange

set_option autoImplicit false

/-! The ways in which reading a file fails, with the words of the operating system for them. -/

namespace RepeatScan

/-- Why a file cannot be read. -/
inductive ReadFailure where
  | missing
  | isDirectory
  | notDirectory
  | nameTooLong
  | nameHasZero
  | notUnicode
  | other (wording : Text)
  deriving DecidableEq, Repr

def ReadFailure.message : ReadFailure → Text
  | .missing => "No such file or directory (os error 2)".toList
  | .isDirectory => "Is a directory (os error 21)".toList
  | .notDirectory => "Not a directory (os error 20)".toList
  | .nameTooLong => "File name too long (os error 36)".toList
  | .nameHasZero => "file name contained an unexpected NUL byte".toList
  | .notUnicode => "stream did not contain valid UTF-8".toList
  | .other wording => wording

end RepeatScan
