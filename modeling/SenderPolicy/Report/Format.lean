import SenderPolicy.Report.Data
import SenderPolicy.Report.Human

/-!
# The formats of a report
-/

namespace SenderPolicy

/-- How reports are written. -/
inductive ReportFormat where
  /-- For people. -/
  | human
  /-- As one JSON array. -/
  | json
  /-- As one JSON object to a line. -/
  | jsonLines
  /-- As a table. -/
  | csv
  deriving DecidableEq, Repr

namespace ReportFormat

/-- The format of a name. -/
def ofName? : String → Option ReportFormat
  | "human" => some human
  | "json" => some json
  | "ndjson" => some jsonLines
  | "csv" => some csv
  | _ => none

/-- The complaint about a name that names no format. -/
def unknownMessage (name : String) : String :=
  "unknown --format '" ++ name ++ "', use: human|json|ndjson|csv"

/-- The text of reports in a format. -/
def write : ReportFormat → List Report → String
  | human, reports => Report.human reports
  | json, reports => Report.json reports
  | jsonLines, reports => Report.jsonLines reports
  | csv, reports => Report.csv reports

/-- What a format still needs at its end where it is shown on a terminal. -/
def terminalEnd : ReportFormat → String
  | json => "\n"
  | _ => ""

end ReportFormat

end SenderPolicy
