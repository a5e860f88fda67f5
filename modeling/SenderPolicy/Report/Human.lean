import SenderPolicy.Report.Basic

/-!
# Reports for people

A line for the domain, with a mark that says whether to have a look, and under it, indented, a line
for each thing that was found.  Records are indented by their depth once more.
-/

namespace SenderPolicy.Report

/-- The lines for a record. -/
def recordLines (record : PolicyRecord) : List String :=
  let indent := String.ofList (List.replicate (2 * record.depth) ' ')
  [indent ++ record.source ++ " depth=" ++ record.depth.repr ++ " action=" ++ record.action.word ++
      " version=" ++ record.version] ++
    record.entries.map (fun entry => indent ++ "  entry " ++ entry.text) ++
    record.addresses.map (fun known =>
      indent ++ "  address " ++ known.address.text ++ " (" ++ known.origin ++ ")") ++
    record.networks.map (fun known =>
      indent ++ "  network " ++ known.network.text ++ " (" ++ known.origin ++ ")") ++
    record.explanation.toList.map (fun text => indent ++ "  explanation " ++ text) ++
    record.issues.map (fun issue => indent ++ "  issue " ++ issue.text)

/-- The lines under a domain. -/
def lines (report : Report) : List String :=
  match report.finding with
  | .failed message => ["error: " ++ message]
  | .skipped reason => ["skipped: " ++ reason]
  | .resolved [] => ["no SPF record"]
  | .resolved records => records.flatMap recordLines

/-- The mark in front of a domain. -/
def mark (report : Report) : String := if report.flagged then "[CHECK] " else "[OK]    "

/-- The text for a domain. -/
def humanText (report : Report) : String :=
  report.mark ++ report.domain ++ "\n" ++
    String.join (report.lines.map fun line => "        " ++ line ++ "\n")

/-- The text for several domains. -/
def human (reports : List Report) : String := String.join (reports.map humanText)

end SenderPolicy.Report
