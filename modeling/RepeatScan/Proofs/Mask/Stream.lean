import RepeatScan.Proofs.Mask.Numbers
import RepeatScan.Proofs.Mask.Tokens

set_option autoImplicit false

/-! The stream of a text. Its tokens are pushed line by line, each with the number of its line, and they
are the words of the masked text as a whole. Nothing is asked of the placeholder, which may be empty or
hold blanks, nor of the markers. -/

namespace RepeatScan

namespace TokenStream

/-- The numbers of the lines that the tokens stand on, in the order of the tokens. -/
def lineNumbers (stream : TokenStream) : List Nat :=
  stream.entries.map (·.line)

/-- The stream with the words of one more line. -/
def pushLine (stream : TokenStream) (line : NumberedLine) : TokenStream :=
  (words line.text).foldl (fun earlier word => earlier.push word line.number) stream

theorem entries_pushLine (stream : TokenStream) (line : NumberedLine) :
    (stream.pushLine line).entries =
      stream.entries ++ (words line.text).map fun word => ⟨word, line.number⟩ := by
  unfold pushLine
  generalize words line.text = found
  induction found generalizing stream with
  | nil => simp
  | cons word later ih =>
      rw [List.foldl_cons, ih]
      simp [push]

theorem entries_foldl_pushLine (stream : TokenStream) (lines : List NumberedLine) :
    (lines.foldl pushLine stream).entries = stream.entries ++ (ofLines lines).entries := by
  induction lines generalizing stream with
  | nil => simp [ofLines]
  | cons line later ih =>
      rw [List.foldl_cons, ih, entries_pushLine]
      simp [ofLines]

/-- The stream of some lines is what pushing their words one after the other gives. -/
theorem ofLines_eq_foldl_pushLine (lines : List NumberedLine) :
    ofLines lines = lines.foldl pushLine empty := by
  have pushed := entries_foldl_pushLine empty lines
  cases given : lines.foldl pushLine empty with
  | mk entries =>
      rw [given] at pushed
      change entries = [] ++ (ofLines lines).entries at pushed
      rw [pushed, List.nil_append]

theorem lineNumbers_ofLines (lines : List NumberedLine) :
    (ofLines lines).lineNumbers =
      lines.flatMap fun line => List.replicate (words line.text).length line.number := by
  simp [lineNumbers, ofLines, List.map_flatMap, Function.comp_def]

/-- Lines joined with spaces have the words of the lines. -/
theorem tokens_ofLines_eq_words (lines : List NumberedLine) :
    (ofLines lines).tokens = words ([' '].intercalate (lines.map (·.text))) := by
  rw [tokens_ofLines, words_intercalate, List.flatMap_map]

end TokenStream

namespace Mask

variable {mask : Mask} {text : Text}

theorem lineNumbers_tokenStream_ordered (few : (Text.lines text).length < UInt32.size) :
    (mask.tokenStream text).lineNumbers.Pairwise (· ≤ ·) :=
  List.pairwise_map.mpr
    (TokenStream.pairwise_entries_ofLines (numbers_maskLines_increasing few))

/-- Numbering the lines does not change the tokens: those of the stream are the words of the masked
text, whatever the lines hold. Each has the number of its line, and the numbers never go back unless the
text has more lines than there are numbers. -/
theorem tokenStream_agrees (mask : Mask) (text : Text) :
    (mask.tokenStream text).tokens = words (mask.maskText text) ∧
      (mask.tokenStream text).lineNumbers.length = (mask.tokenStream text).tokens.length ∧
      ((Text.lines text).length < UInt32.size →
        (mask.tokenStream text).lineNumbers.Pairwise (· ≤ ·)) ∧
      ∀ lines : List NumberedLine,
        lines.foldl TokenStream.pushLine .empty = TokenStream.ofLines lines ∧
          (TokenStream.ofLines lines).tokens = words ([' '].intercalate (lines.map (·.text))) ∧
          (TokenStream.ofLines lines).lineNumbers =
            lines.flatMap fun line => List.replicate (words line.text).length line.number := by
  refine ⟨?_, ?_, lineNumbers_tokenStream_ordered, ?_⟩
  · exact TokenStream.tokens_ofLines_eq_words (mask.maskLines text)
  · simp [TokenStream.lineNumbers, TokenStream.tokens]
  · intro lines
    exact ⟨(TokenStream.ofLines_eq_foldl_pushLine lines).symm,
      TokenStream.tokens_ofLines_eq_words lines, TokenStream.lineNumbers_ofLines lines⟩

/-- A mask whose placeholder is two words between blanks, and one of whose markers is a line break. -/
def blankedMask : Mask := ⟨[['#'], ['\n', '\n']], true, " A\u0085B\t".toList⟩

-- The second marker takes line breaks with it, so that the last token is found two lines further up.
theorem tokenStream_agrees_blanked :
    words (blankedMask.maskText "x = 1 # c\n /*\n*/ y\r\n5\n\nz\n6".toList) =
        [['A'], ['B'], ['='], ['1'], ['A'], ['B'], ['5'], ['6']] ∧
      (blankedMask.tokenStream "x = 1 # c\n /*\n*/ y\r\n5\n\nz\n6".toList).lineNumbers =
        [1, 1, 1, 1, 3, 3, 4, 5] ∧
      (blankedMask.tokenStream "x = 1 # c\n /*\n*/ y\r\n5\n\nz\n6".toList).lineNumbers.Pairwise
        (· ≤ ·) := by
  obtain ⟨tokens, _, ordered, _⟩ :=
    tokenStream_agrees blankedMask "x = 1 # c\n /*\n*/ y\r\n5\n\nz\n6".toList
  refine ⟨?_, by decide +kernel, ordered (by decide)⟩
  rw [← tokens]
  decide +kernel

end Mask

end RepeatScan
