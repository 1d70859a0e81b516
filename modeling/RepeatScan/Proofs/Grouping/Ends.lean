import RepeatScan.Proofs.Grouping.Origins
import RepeatScan.Proofs.Span.Account

set_option autoImplicit false

/-! How the spans of a merged group begin and end. A merged span starts and stops with a window of its
class, and each group that is folded into a head says the same of the spans moved right by some tokens.
Put together, all spans of a group begin with the same tokens, as many as a window has and one more for
each group folded into theirs, and in the same way they all end alike. -/

namespace RepeatScan.Grouping

open RepeatScan.Span (Head reach shiftAll)

variable {size : Nat} {sources : List ScannedSource} {options : GroupingOptions}

/-- The tokens of a span. -/
def text? (sources : List ScannedSource) (span : Span) : Option (List Token) :=
  (source? sources span.source).map fun source => source.tokens.slice span.start span.stop

/-- All spans begin with the same tokens and end with the same tokens, so many of them. -/
def SharesEnds (sources : List ScannedSource) (count : Nat) (spans : List Span) : Prop :=
  ∃ opening closing : List Token, opening.length = count ∧ closing.length = count ∧
    ∀ span ∈ spans, ∃ text, text? sources span = some text ∧
      text.length = span.stop - span.start ∧ opening <+: text ∧ closing <:+ text

/-- A span of a source that starts and stops with a window of some content. -/
structure Framed (size : Nat) (content : List Token) (source : ScannedSource) (span : Span) :
    Prop where
  fits : span.stop ≤ source.tokens.length
  opens : (source.tokens.tokens.drop span.start).take size = content
  closes : (source.tokens.tokens.drop (span.stop - size)).take size = content

/-- Lists that agree on the windows at the first offsets agree on all that these windows cover. -/
theorem take_eq_of_windows {left right : List Token} {last : Nat} (positive : 0 < size)
    (same : ∀ offset ≤ last, (left.drop offset).take size = (right.drop offset).take size) :
    left.take (size + last) = right.take (size + last) := by
  apply List.ext_getElem?
  intro index
  rw [List.getElem?_take, List.getElem?_take]
  by_cases inside : index < size + last
  · have window := congrArg (fun items => items[index - min index last]?)
      (same (min index last) (Nat.min_le_right _ _))
    have within : index - min index last < size := by omega
    have whole : min index last + (index - min index last) = index := by omega
    rw [if_pos inside, if_pos inside]
    simpa only [List.getElem?_take, if_pos within, List.getElem?_drop, whole] using window
  · rw [if_neg inside, if_neg inside]

/-- What begins at a start and what ends at a stop lies within the slice from the one to the other. -/
private theorem ends_of_slice (tokens : List Token) (grown : Nat) {start stop : Nat}
    (long : start + size ≤ stop) :
    (tokens.drop start).take (size + grown) <+: (tokens.take (stop + grown)).drop start ∧
      (tokens.drop (stop - size)).take (size + grown) <:+
        (tokens.take (stop + grown)).drop start := by
  constructor
  · rw [List.drop_take]
    exact List.take_prefix_take_left (by omega)
  · have cut : stop + grown - (stop - size) = size + grown := by omega
    rw [← cut, ← List.drop_take]
    exact List.drop_suffix_drop_left _ (by omega)

namespace Enumerated

variable (enumerated : Enumerated size sources) (positive : 0 < size)

include enumerated positive

private theorem window_in_source {window : Window} (listed : window ∈ windowsOf size sources)
    {source : ScannedSource} (known : source ∈ sources) (index : source.index = window.source) :
    window.stop = window.start + size ∧ window.start + size ≤ source.tokens.length ∧
      content? sources window = some ((source.tokens.tokens.drop window.start).take size) := by
  obtain ⟨owner, present, start, bound, rfl⟩ := mem_windowsOf.mp listed
  obtain rfl : source = owner :=
    List.inj_on_of_nodup_map enumerated.distinct known present index
  rw [Window.count_of_pos positive] at bound
  refine ⟨rfl, ?_, ?_⟩
  · change start + size ≤ source.tokens.length
    omega
  · rw [content?_eq_some enumerated.distinct present, TokenStream.slice, List.drop_take,
      Nat.add_sub_cancel_left]

variable (verified : options.verifyContent = true)

include verified

/-- All spans of a group that is not folded yet are framed by one content. -/
theorem exists_framed {found : List Span}
    (member : found ∈ SpanGroup.lists (orderedGroups sources options (tally size sources).buckets)) :
    ∃ content, ∀ span ∈ found, ∀ source ∈ sources, source.index = span.source →
      Framed size content source span := by
  obtain ⟨windows, isPart, rfl⟩ := exists_isPart member
  have listed {window : Window} (inside : window ∈ windows) :=
    enumerated.mem_windowsOf_of_isPart isPart inside
  obtain ⟨sample, sampled⟩ := List.exists_mem_of_ne_nil _ isPart.ne_nil
  obtain ⟨content, has⟩ := Option.isSome_iff_exists.mp (enumerated.isSome_content? (listed sampled))
  refine ⟨content, fun span inside source known index => ?_⟩
  obtain ⟨⟨first, firstMember, firstSource, start⟩, ⟨last, lastMember, lastSource, stop⟩⟩ :=
    spanned_of_mem_spans inside
  obtain ⟨_, _, opening⟩ := enumerated.window_in_source positive (listed firstMember) known
    (index.trans firstSource.symm)
  obtain ⟨lastStop, fits, closing⟩ := enumerated.window_in_source positive (listed lastMember) known
    (index.trans lastSource.symm)
  rw [enumerated.content?_of_isPart isPart verified firstMember sampled, has] at opening
  rw [enumerated.content?_of_isPart isPart verified lastMember sampled, has] at closing
  have lastStart : last.start = span.stop - size := by omega
  rw [start] at opening
  rw [lastStart] at closing
  exact ⟨by omega, (Option.some.inj opening).symm, (Option.some.inj closing).symm⟩

section Chain

variable {head : List Span}
  (heads : Head (SpanGroup.lists (orderedGroups sources options (tally size sources).buckets)) head)

include heads

private theorem exists_framed_link {offset : Nat} (within : offset ≤
      reach (SpanGroup.lists (orderedGroups sources options (tally size sources).buckets)) head) :
    ∃ content, ∀ span ∈ head, ∀ source ∈ sources, source.index = span.source →
      Framed size content source (span.shift offset) := by
  obtain ⟨content, framed⟩ := enumerated.exists_framed positive verified (heads.mem_link within)
  refine ⟨content, fun span inside source known index => ?_⟩
  exact framed _ (List.mem_map.mpr ⟨span, inside, rfl⟩) source known index

variable (merging : options.mergeOverlaps = true)

include merging

-- However far the chain reaches, its last link still lies within the sources.
private theorem bounds_of_head {span : Span} (member : span ∈ head) {source : ScannedSource}
    (known : source ∈ sources) (index : source.index = span.source) :
    span.start + size ≤ span.stop ∧ span.stop +
      reach (SpanGroup.lists (orderedGroups sources options (tally size sources).buckets)) head ≤
        source.tokens.tokens.length := by
  obtain ⟨content, framed⟩ :=
    enumerated.exists_framed_link positive verified heads (Nat.le_refl _)
  have last := framed span member source known index
  rw [TokenStream.length_tokens]
  exact ⟨enumerated.size_le_of_mem_lists merging heads.member member, last.fits⟩

/-- Any two spans of a head agree on the tokens from their starts on, and on those from the start of
their last windows on, as far as the windows of the whole chain go. -/
theorem take_eq_of_head {left right : Span} (leftMember : left ∈ head) (rightMember : right ∈ head)
    {leftSource rightSource : ScannedSource} (leftKnown : leftSource ∈ sources)
    (rightKnown : rightSource ∈ sources) (leftIndex : leftSource.index = left.source)
    (rightIndex : rightSource.index = right.source) :
    let count := size +
      reach (SpanGroup.lists (orderedGroups sources options (tally size sources).buckets)) head
    (leftSource.tokens.tokens.drop left.start).take count =
        (rightSource.tokens.tokens.drop right.start).take count ∧
      (leftSource.tokens.tokens.drop (left.stop - size)).take count =
        (rightSource.tokens.tokens.drop (right.stop - size)).take count := by
  intro count
  constructor
  · apply take_eq_of_windows positive
    intro offset within
    obtain ⟨content, framed⟩ :=
      enumerated.exists_framed_link positive verified heads within
    rw [List.drop_drop, List.drop_drop]
    exact (framed left leftMember leftSource leftKnown leftIndex).opens.trans
      (framed right rightMember rightSource rightKnown rightIndex).opens.symm
  · apply take_eq_of_windows positive
    intro offset within
    obtain ⟨content, framed⟩ :=
      enumerated.exists_framed_link positive verified heads within
    -- The last window of a shifted span starts as far behind the last one of the span itself.
    have last {span : Span} (inside : span ∈ head) :
        span.stop - size + offset = (span.shift offset).stop - size := by
      have long := enumerated.size_le_of_mem_lists merging heads.member inside
      change span.stop - size + offset = span.stop + offset - size
      omega
    rw [List.drop_drop, List.drop_drop, last leftMember, last rightMember]
    exact (framed left leftMember leftSource leftKnown leftIndex).closes.trans
      (framed right rightMember rightSource rightKnown rightIndex).closes.symm

end Chain

/-- All spans of a group begin alike and end alike, on as many tokens as a window has and one more for
each group that was folded into it. -/
theorem sharesEnds_of_mem_account (merging : options.mergeOverlaps = true)
    {entry : SpanGroup Label × List Nat}
    (member : entry ∈
      SpanGroup.account (orderedGroups sources options (tally size sources).buckets)) :
    SharesEnds sources (size + entry.2.length) entry.1.spans := by
  obtain ⟨head, heads, count, whole⟩ :=
    SpanGroup.head_of_mem_account enumerated.lists_orderedGroups_ordered member
  have placed {span : Span} (inside : span ∈ head) :=
    enumerated.source_of_mem_lists heads.member inside
  obtain ⟨first, firstMember⟩ := List.exists_mem_of_ne_nil _
    (enumerated.lists_orderedGroups_ordered.inhabited _ heads.member)
  obtain ⟨firstSource, firstKnown, firstIndex⟩ := placed firstMember
  obtain ⟨long, fits⟩ := enumerated.bounds_of_head positive verified heads merging firstMember
    firstKnown firstIndex
  rw [← count] at fits
  refine ⟨(firstSource.tokens.tokens.drop first.start).take (size + entry.2.length),
    (firstSource.tokens.tokens.drop (first.stop - size)).take (size + entry.2.length), ?_, ?_, ?_⟩
  · rw [List.length_take, List.length_drop]
    omega
  · rw [List.length_take, List.length_drop]
    omega
  · intro span inside
    rw [whole] at inside
    obtain ⟨short, present, rfl⟩ := List.mem_map.mp inside
    obtain ⟨source, known, index⟩ := placed present
    obtain ⟨ownLong, ownFits⟩ := enumerated.bounds_of_head positive verified heads merging present
      known index
    obtain ⟨opening, closing⟩ := enumerated.take_eq_of_head positive verified heads merging
      firstMember present firstKnown known firstIndex index
    obtain ⟨begins, ends⟩ := ends_of_slice source.tokens.tokens entry.2.length ownLong
    rw [← count] at ownFits opening closing
    refine ⟨source.tokens.slice short.start (short.stop + entry.2.length), ?_, ?_, ?_, ?_⟩
    · change (source? sources short.source).map _ = _
      rw [← index, source?_eq_some enumerated.distinct known]
      rfl
    · rw [TokenStream.slice, List.length_drop, List.length_take_of_le ownFits]
      rfl
    · rw [opening]
      exact begins
    · rw [closing]
      exact ends

end Enumerated

end RepeatScan.Grouping
