import RepeatScan.Proofs.Mask.Comments

set_option autoImplicit false

/-! The numbers of lines. The lines that masking leaves keep the numbers they had in the text, so
the tokens of a text stand on lines of it, from the first line on and never going back. -/

namespace RepeatScan

namespace TokenStream

variable {stream : TokenStream} {start stop : Nat}

/-- A range of tokens inside the stream reaches from the line of its first token to that of its
last. -/
theorem lineOf?_lineRange (inhabited : start < stop) (fits : stop ≤ stream.length) :
    stream.lineOf? start = some (stream.lineRange start stop).first ∧
      stream.lineOf? (stop - 1) = some (stream.lineRange start stop).last := by
  have long : (stream.entries.take stop).length = stop := List.length_take_of_le fits
  have head : ((stream.entries.take stop).drop start).head? = stream.entries[start]? := by
    rw [List.head?_drop, List.getElem?_take_of_lt inhabited]
  have last : ((stream.entries.take stop).drop start).getLast? = stream.entries[stop - 1]? := by
    rw [List.getLast?_drop, if_neg (by omega), List.getLast?_eq_getElem?, long,
      List.getElem?_take_of_lt (by omega)]
  unfold lineOf? lineRange
  rw [← head, ← last]
  cases cut : (stream.entries.take stop).drop start with
  | nil =>
      have empty := congrArg List.length cut
      rw [List.length_drop, long, List.length_nil] at empty
      omega
  | cons first later =>
      constructor
      · rfl
      · rw [List.getLast?_eq_some_getLast (List.cons_ne_nil first later)]
        rfl

theorem lineOf?_mono (ordered : stream.entries.Pairwise fun left right => left.line ≤ right.line)
    {earlier later first second : Nat} (before : earlier ≤ later)
    (one : stream.lineOf? earlier = some first) (other : stream.lineOf? later = some second) :
    first ≤ second := by
  obtain ⟨left, leftStands, rfl⟩ := Option.map_eq_some_iff.mp one
  obtain ⟨right, rightStands, rfl⟩ := Option.map_eq_some_iff.mp other
  obtain ⟨leftBound, rfl⟩ := List.getElem?_eq_some_iff.mp leftStands
  obtain ⟨rightBound, rfl⟩ := List.getElem?_eq_some_iff.mp rightStands
  rcases Nat.lt_or_eq_of_le before with less | same
  · exact List.pairwise_iff_getElem.mp ordered _ _ leftBound rightBound less
  · subst same
    exact Nat.le_refl _

theorem mem_entries_ofLines {lines : List NumberedLine} {token : PlacedToken}
    (member : token ∈ (ofLines lines).entries) :
    ∃ line ∈ lines, token.text ∈ words line.text ∧ token.line = line.number := by
  obtain ⟨line, listed, inside⟩ := List.mem_flatMap.mp member
  obtain ⟨word, held, rfl⟩ := List.mem_map.mp inside
  exact ⟨line, listed, held, rfl⟩

theorem pairwise_entries_ofLines {lines : List NumberedLine}
    (ordered : lines.Pairwise fun left right => left.number < right.number) :
    (ofLines lines).entries.Pairwise fun left right => left.line ≤ right.line := by
  apply List.pairwise_flatMap.mpr
  constructor
  · intro line _
    apply List.pairwise_map.mpr
    exact List.pairwise_of_forall fun _ _ => Nat.le_refl _
  · refine ordered.imp ?_
    intro left right before first inLeft second inRight
    obtain ⟨_, _, rfl⟩ := List.mem_map.mp inLeft
    obtain ⟨_, _, rfl⟩ := List.mem_map.mp inRight
    exact Nat.le_of_lt before

end TokenStream

namespace Mask

variable {mask : Mask} {text : Text}

theorem exists_of_mem_maskLines {line : NumberedLine} (member : line ∈ mask.maskLines text) :
    ∃ position original, (Text.lines (mask.withoutComments text))[position]? = some original ∧
      line = ⟨lineNumber position, mask.maskLine original⟩ := by
  obtain ⟨entry, listed, result⟩ := List.mem_filterMap.mp member
  dsimp only at result
  split at result
  · cases result
  · exact ⟨entry.2, entry.1, List.mem_zipIdx_iff_getElem?.mp listed, (Option.some.inj result).symm⟩

section Few

variable (few : (Text.lines text).length < UInt32.size)

include few

-- Numbers wrap around only in texts with more lines than that.
theorem lineNumber_eq_succ {position : Nat}
    (inside : position < (Text.lines (mask.withoutComments text)).length) :
    lineNumber position = position + 1 := by
  have bound := mask.length_lines_withoutComments_le text
  exact Nat.mod_eq_of_lt (by omega)

theorem number_of_mem_maskLines {line : NumberedLine} (member : line ∈ mask.maskLines text) :
    1 ≤ line.number ∧ line.number ≤ (Text.lines text).length := by
  obtain ⟨position, original, stands, rfl⟩ := exists_of_mem_maskLines member
  obtain ⟨inside, _⟩ := List.getElem?_eq_some_iff.mp stands
  have bound := mask.length_lines_withoutComments_le text
  change 1 ≤ lineNumber position ∧ lineNumber position ≤ _
  rw [lineNumber_eq_succ few inside]
  omega

theorem numbers_maskLines_increasing :
    (mask.maskLines text).Pairwise fun left right => left.number < right.number := by
  have positions : (Text.lines (mask.withoutComments text)).zipIdx.Pairwise fun left right =>
      left.2 < right.2 := by
    apply List.pairwise_map.mp
    rw [List.zipIdx_map_snd]
    exact List.pairwise_lt_range'
  apply List.pairwise_filterMap.mpr
  refine positions.imp_of_mem ?_
  intro left right leftMember rightMember before first leftKept second rightKept
  have numbered {entry : Text × Nat} {line : NumberedLine}
      (member : entry ∈ (Text.lines (mask.withoutComments text)).zipIdx)
      (kept : (if (mask.maskLine entry.1).isEmpty then none
        else some (NumberedLine.mk (lineNumber entry.2) (mask.maskLine entry.1))) = some line) :
      line.number = entry.2 + 1 := by
    obtain ⟨inside, _⟩ := List.getElem?_eq_some_iff.mp (List.mem_zipIdx_iff_getElem?.mp member)
    split at kept
    · cases kept
    · rw [← Option.some.inj kept]
      exact lineNumber_eq_succ few inside
  rw [numbered leftMember leftKept, numbered rightMember rightKept]
  exact Nat.succ_lt_succ before

/-- A range of tokens of a text stands on lines of the text, the first of which does not come after
the last. -/
theorem lineRange_tokenStream {start stop : Nat} (inhabited : start < stop)
    (fits : stop ≤ (mask.tokenStream text).length) :
    1 ≤ ((mask.tokenStream text).lineRange start stop).first ∧
      ((mask.tokenStream text).lineRange start stop).first ≤
        ((mask.tokenStream text).lineRange start stop).last ∧
      ((mask.tokenStream text).lineRange start stop).last ≤ (Text.lines text).length := by
  obtain ⟨first, last⟩ := TokenStream.lineOf?_lineRange inhabited fits
  have numbered {position line : Nat} (stands : (mask.tokenStream text).lineOf? position = some line) :
      1 ≤ line ∧ line ≤ (Text.lines text).length := by
    obtain ⟨token, found, rfl⟩ := Option.map_eq_some_iff.mp stands
    obtain ⟨line, listed, _, same⟩ := TokenStream.mem_entries_ofLines (List.mem_of_getElem? found)
    rw [same]
    exact number_of_mem_maskLines few listed
  have ordered : (mask.tokenStream text).entries.Pairwise fun left right => left.line ≤ right.line :=
    TokenStream.pairwise_entries_ofLines (numbers_maskLines_increasing few)
  exact ⟨(numbered first).1, TokenStream.lineOf?_mono ordered (by omega) first last, (numbered last).2⟩

end Few

end Mask

end RepeatScan
