import RepeatScan.Bucket.Tally
import RepeatScan.Report
import RepeatScan.Span.Shift
import RepeatScan.TokenStream

set_option autoImplicit false

/-! From buckets to the report. A bucket is split into the classes of equal content, each class is
turned into spans, classes with too few spans are left out, and shifted groups are folded. -/

namespace RepeatScan

/-- A source whose tokens and windows are known. -/
structure ScannedSource where
  index : Nat
  id : Text
  tokens : TokenStream
  windows : List WindowPrint
  deriving DecidableEq, Repr

/-- What grouping is told. -/
structure GroupingOptions where
  minOccurrences : Nat
  mergeOverlaps : Bool
  verifyContent : Bool
  deriving DecidableEq, Repr

namespace GroupingOptions

/-- The number of spans that a group needs: one at least. -/
def threshold (options : GroupingOptions) : Nat :=
  max 1 options.minOccurrences

end GroupingOptions

namespace Grouping

/-- The source of an index; of several, the last. -/
def source? (sources : List ScannedSource) (index : Nat) : Option ScannedSource :=
  sources.reverse.find? (·.index = index)

def content? (sources : List ScannedSource) (window : Window) : Option (List Token) :=
  (source? sources window.source).map fun source => source.tokens.slice window.start window.stop

def alike {Content : Type} [DecidableEq Content] (content : Content)
    (windows : List (Window × Content)) : List Window :=
  (windows.filter fun entry => entry.2 = content).map (·.1)

/-- The windows with other content than the given one. -/
def unlike {Content : Type} [DecidableEq Content] (content : Content)
    (windows : List (Window × Content)) : List (Window × Content) :=
  windows.filter fun entry => entry.2 ≠ content

theorem length_unlike_le {Content : Type} [DecidableEq Content] (content : Content)
    (windows : List (Window × Content)) : (unlike content windows).length ≤ windows.length :=
  List.length_filter_le _ _

/-- The classes of windows with equal content, in the order in which contents first appear. -/
def classes {Content : Type} [DecidableEq Content] :
    List (Window × Content) → List (Window × List Window)
  | [] => []
  | (first, content) :: later =>
      (first, alike content later) :: classes (unlike content later)
termination_by windows => windows.length
decreasing_by exact Nat.lt_succ_of_le (length_unlike_le content later)

/-- The parts of a bucket: its classes of equal content when contents are compared, else all of it.
The windows of unknown sources are left out of the comparison. -/
def parts (sources : List ScannedSource) (options : GroupingOptions) (bucket : Bucket) :
    List (Window × List Window) :=
  if options.verifyContent && !bucket.others.isEmpty then
    classes (bucket.windows.filterMap fun window =>
      (content? sources window).map fun content => (window, content))
  else [(bucket.first, bucket.others)]

/-- The first window of a group and its label. -/
structure Label where
  first : Window
  fingerprint : Fingerprint
  deriving DecidableEq, Repr

def spans (options : GroupingOptions) (windows : List Window) : List Span :=
  if options.mergeOverlaps then Span.merge windows else Span.separate windows

def bucketGroups (sources : List ScannedSource) (options : GroupingOptions) (bucket : Bucket) :
    List (SpanGroup Label) :=
  if bucket.windows.length < options.threshold then []
  else (parts sources options bucket).zipIdx.filterMap fun (part, ordinal) =>
    let found := spans options (part.1 :: part.2)
    if found.length < options.threshold then none
    else some ⟨⟨part.1, bucket.fingerprint.disambiguate ordinal⟩, found⟩

/-- The groups of spans of all buckets, by first window. -/
def orderedGroups (sources : List ScannedSource) (options : GroupingOptions)
    (buckets : List Bucket) : List (SpanGroup Label) :=
  (buckets.flatMap (bucketGroups sources options)).mergeSort fun left right =>
    left.key.first.precedes right.key.first

/-- The groups of spans that are reported: shifts are folded when spans are merged. -/
def spanGroups (sources : List ScannedSource) (options : GroupingOptions) (buckets : List Bucket) :
    List (SpanGroup Label) :=
  if options.mergeOverlaps then SpanGroup.coalesce (orderedGroups sources options buckets)
  else orderedGroups sources options buckets

def occurrence? (sources : List ScannedSource) (span : Span) : Option Occurrence :=
  (source? sources span.source).map fun source =>
    ⟨source.id, span.start, span.stop, source.tokens.lineRange span.start span.stop⟩

def report (sources : List ScannedSource) (options : GroupingOptions) (buckets : List Bucket) :
    Report :=
  ⟨(spanGroups sources options buckets).map fun group =>
    ⟨group.key.fingerprint, group.spans.filterMap (occurrence? sources)⟩⟩

def tally (size : Nat) (sources : List ScannedSource) : Tally :=
  sources.foldl (fun tally source => tally.insert size source.index source.windows) .empty

/-- The report of sources that carry their windows. -/
def reportOf (size : Nat) (options : GroupingOptions) (sources : List ScannedSource) : Report :=
  report sources options (tally size sources).buckets

end Grouping

end RepeatScan
