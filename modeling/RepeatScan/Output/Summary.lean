import RepeatScan.Report

set_option autoImplicit false

/-! The summary of a report for readers: a headline with the number of groups, then each group behind
an empty line, its occurrences indented. -/

namespace RepeatScan.Summary

def line (content : Text) : Text :=
  content ++ ['\n']

def headline (report : Report) : Text :=
  line ("Found ".toList ++ Text.decimal report.groups.length ++ " templating opportunities".toList)

/-- An empty line, the fingerprint and the counts of a group, and its occurrences. -/
def ofGroup (group : Group) : Text :=
  line [] ++
    line ("Template ".toList ++ group.fingerprint.display ++ " (".toList ++
      Text.decimal group.occurrences.length ++ " occurrences in ".toList ++
      Text.decimal group.sourceCount ++ " files)".toList) ++
    group.occurrences.flatMap fun occurrence => line ("  ".toList ++ occurrence.display)

def ofReport (report : Report) : Text :=
  headline report ++ report.groups.flatMap ofGroup

end RepeatScan.Summary
