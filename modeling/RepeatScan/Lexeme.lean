import RepeatScan.Text.CharClass

set_option autoImplicit false

/-! Lexemes are the maximal runs of characters of one kind, and words the maximal runs without
blanks. Blanks only separate. -/

namespace RepeatScan

def lexemes (text : Text) : List Text :=
  (text.splitBy fun left right => Text.kindOf left == Text.kindOf right).filter
    fun run => run.head?.any fun character => Text.kindOf character != .blank

def words (text : Text) : List Text :=
  (text.splitBy fun left right => Text.isBlank left == Text.isBlank right).filter
    fun run => run.head?.any fun character => !Text.isBlank character

end RepeatScan
