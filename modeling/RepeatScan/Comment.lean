import RepeatScan.Text.CodeRange

set_option autoImplicit false

/-! Comments. A block comment leaves its newlines behind, and a block that never ends is no comment.
A line comment runs from its marker to the end of the line and leaves nothing behind. -/

namespace RepeatScan.Comment

/-- Goes through a text behind what is already kept (last character first). Inside a block it knows
what was kept before the block and the text from the block's opening on. -/
def dropBlocksFrom (kept : Text) : Option (Text × Text) → Text → Text
  | none, '/' :: '*' :: rest => dropBlocksFrom kept (some (kept, '/' :: '*' :: rest)) rest
  | none, character :: rest => dropBlocksFrom (character :: kept) none rest
  | none, [] => kept.reverse
  | some _, '*' :: '/' :: rest => dropBlocksFrom kept none rest
  | some block, '\n' :: rest => dropBlocksFrom ('\n' :: kept) (some block) rest
  | some block, _ :: rest => dropBlocksFrom kept (some block) rest
  | some (before, opening), [] => before.reverse ++ opening

/-- A text without its block comments; the newlines in them stay. -/
def dropBlocks (text : Text) : Text :=
  dropBlocksFrom [] none text

/-- Goes through a text behind what is already kept (last character first). Inside a comment it
knows how many characters of the marker are still to come. -/
def dropLineCommentsFrom (markers : List Text) (kept : Text) : Option Nat → Text → Text
  | _, [] => kept.reverse
  | some (more + 1), _ :: rest => dropLineCommentsFrom markers kept (some more) rest
  | inside, character :: rest =>
      if inside = some 0 ∧ character ≠ '\n' then dropLineCommentsFrom markers kept (some 0) rest
      else match markers.find? (·.isPrefixOf (character :: rest)) with
        | none => dropLineCommentsFrom markers (character :: kept) none rest
        | some [] =>
            if character = '\n' then dropLineCommentsFrom markers (character :: kept) none rest
            else dropLineCommentsFrom markers kept (some 0) rest
        | some (_ :: marker) => dropLineCommentsFrom markers kept (some marker.length) rest

/-- A text without its line comments: where a marker starts, the first of the list that does, the
marker and the rest of its line go. -/
def dropLineComments (markers : List Text) (text : Text) : Text :=
  dropLineCommentsFrom markers [] none text

end RepeatScan.Comment
