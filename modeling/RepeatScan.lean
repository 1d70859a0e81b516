import RepeatScan.Json.Settings
import RepeatScan.Main
import RepeatScan.Proofs.Detection.Streaming
import RepeatScan.Proofs.Fingerprint.Rolling
import RepeatScan.Proofs.Bucket.Conservation
import RepeatScan.Proofs.Span.Merge
import RepeatScan.Proofs.Span.Edges
import RepeatScan.Proofs.Span.Chain
import RepeatScan.Proofs.Span.Fold
import RepeatScan.Proofs.Span.Account
import RepeatScan.Proofs.Span.Partition
import RepeatScan.Proofs.Span.Restriction
import RepeatScan.Proofs.Grouping.Parts
import RepeatScan.Proofs.Grouping.Groups
import RepeatScan.Proofs.Grouping.Enumerated
import RepeatScan.Proofs.Grouping.Kinds
import RepeatScan.Proofs.Grouping.Origins
import RepeatScan.Proofs.Grouping.Threshold
import RepeatScan.Proofs.Grouping.Ends
import RepeatScan.Proofs.Grouping.Overlap
import RepeatScan.Proofs.Grouping.Places
import RepeatScan.Proofs.Detection.Readable
import RepeatScan.Proofs.Detection.Counts
import RepeatScan.Proofs.Grouping.Independence
import RepeatScan.Proofs.Detection.Unmerged
import RepeatScan.Proofs.Detection.Threshold
import RepeatScan.Proofs.Detection.Folded
import RepeatScan.Proofs.Grouping.Region
import RepeatScan.Proofs.Grouping.Coverage
import RepeatScan.Proofs.Detection.Merged
import RepeatScan.Proofs.Span.Origin
import RepeatScan.Proofs.Grouping.Sequence
import RepeatScan.Proofs.Detection.Reported
import RepeatScan.Proofs.Text.Lines
import RepeatScan.Proofs.Mask.Numbers
import RepeatScan.Proofs.Grouping.Bounds
import RepeatScan.Proofs.Detection.Bounds
import RepeatScan.Proofs.Span.Renumbering
import RepeatScan.Proofs.Grouping.Renumbering
import RepeatScan.Proofs.Grouping.Idle
import RepeatScan.Proofs.Detection.Skipping
import RepeatScan.Proofs.Span.Shuffling
import RepeatScan.Proofs.Grouping.Labels
import RepeatScan.Proofs.Grouping.Identity
import RepeatScan.Proofs.Detection.Identity
import RepeatScan.Proofs.Grouping.Shuffling
import RepeatScan.Proofs.Detection.Shuffling
import RepeatScan.Proofs.Span.Ranges
import RepeatScan.Proofs.Grouping.Copies
import RepeatScan.Proofs.Detection.Copies
import RepeatScan.Proofs.Fingerprint.Mixing
import RepeatScan.Proofs.Span.Maximal
import RepeatScan.Proofs.Grouping.Verification
import RepeatScan.Proofs.Detection.Verification
import RepeatScan.Proofs.Text.Runs
import RepeatScan.Proofs.Text.Lexemes
import RepeatScan.Proofs.Text.Thinning
import RepeatScan.Proofs.Text.Pieces
import RepeatScan.Proofs.Mask.Tokens
import RepeatScan.Proofs.Mask.Alignment
import RepeatScan.Proofs.Mask.Markers
import RepeatScan.Proofs.Mask.Places
import RepeatScan.Proofs.Mask.Renaming
import RepeatScan.Proofs.Mask.Stream
import RepeatScan.Proofs.Json.Literal
import RepeatScan.Proofs.Output.Fields
import RepeatScan.Proofs.Output.Pairs
import RepeatScan.Proofs.Text.Passage
import RepeatScan.Proofs.Output.Snippet
import RepeatScan.Proofs.Detection.Snippets
import RepeatScan.Proofs.Retrieval
import RepeatScan.Proofs.Text.Digits
import RepeatScan.Proofs.Output.Records
import RepeatScan.Proofs.Json.Layout
import RepeatScan.Proofs.Json.Tree
import RepeatScan.Proofs.Json.Report
import RepeatScan.Proofs.File.Walk
import RepeatScan.Proofs.File.Resolution
import RepeatScan.Proofs.File.Collection
import RepeatScan.Proofs.Yaml.Characters
import RepeatScan.Proofs.Yaml.Styles
import RepeatScan.Proofs.Yaml.Plain
import RepeatScan.Proofs.Yaml.Quoted
import RepeatScan.Proofs.Yaml.Block
import RepeatScan.Proofs.Yaml.Scanning
import RepeatScan.Proofs.Yaml.Tokens
import RepeatScan.Proofs.Yaml.Printed
import RepeatScan.Proofs.Yaml.Nodes
import RepeatScan.Proofs.Yaml.Records
import RepeatScan.Proofs.Yaml.Settings
import RepeatScan.Proofs.Detection.SourceCount
import RepeatScan.Proofs.Span.Turns
import RepeatScan.Proofs.Text.Utf8
import RepeatScan.Proofs.Detection.Decoding
import RepeatScan.Proofs.Text.HexDigits
import RepeatScan.Proofs.Fingerprint.Spelling
