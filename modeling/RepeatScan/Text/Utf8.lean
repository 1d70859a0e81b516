import RepeatScan.Text.CodeRange

set_option autoImplicit false

/-! UTF-8. Reading stops at the first byte that does not continue the text and says how many bytes
before it were well formed. -/

namespace RepeatScan.Utf8

def encode (text : Text) : ByteArray :=
  (String.ofList text).toUTF8

def byteLength (text : Text) : Nat :=
  text.foldr (fun character bytes => character.utf8Size + bytes) 0

/-- A text without its first bytes; a character that they only begin stays. -/
def drop : Nat → Text → Text
  | _, [] => []
  | count, character :: rest =>
      if count < character.utf8Size then character :: rest
      else drop (count - character.utf8Size) rest

/-- The characters that the first bytes of a text make up. -/
def take : Nat → Text → Text
  | _, [] => []
  | count, character :: rest =>
      if count < character.utf8Size then []
      else character :: take (count - character.utf8Size) rest

/-- Reads the characters from a position on, behind those already read (last one first). -/
def decodeFrom (bytes : ByteArray) (position : Nat) (earlier : Text) : Except Nat Text :=
  if position < bytes.size then
    match bytes.utf8DecodeChar? position with
    | some character => decodeFrom bytes (position + character.utf8Size) (character :: earlier)
    | none => .error position
  else
    .ok earlier.reverse
termination_by bytes.size - position
decreasing_by
  have advance := character.utf8Size_pos
  omega

/-- The text that the bytes encode, or the number of leading bytes that encode some text. -/
def decode (bytes : ByteArray) : Except Nat Text :=
  decodeFrom bytes 0 []

end RepeatScan.Utf8
