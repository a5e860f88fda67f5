import SenderPolicy.Json.Codec.Policy
import SenderPolicy.Report.Basic
import SenderPolicy.Report.Csv

/-!
# Reports for programs

A report is written from its parts, which lie side by side in a sheet.  The writers look at each
part by itself, and make sense of every sheet, whether or not a resolution leads to it.

In JSON a report is an object; what there is nothing to say about is left out.  Several reports
are one array, laid out over several lines, or one line each.

In CSV there is a row for every address and every network that a policy authorises, and one for a
resolution that failed, which then is all there is.
-/

namespace SenderPolicy.Report

/-- The parts of a report. -/
structure Sheet where
  domain : String
  records : List PolicyRecord
  /-- Why the resolution failed, if it did. -/
  error : Option String
  /-- Why there was nothing to resolve, if so. -/
  skipped : Option String
  deriving DecidableEq

/-- The parts that a report has. -/
def sheet (report : Report) : Sheet where
  domain := report.domain
  records := report.records
  error :=
    match report.finding with
    | .failed message => some message
    | _ => none
  skipped :=
    match report.finding with
    | .skipped reason => some reason
    | _ => none

namespace Sheet

/-- The JSON of a report. -/
def toJson (sheet : Sheet) : Json :=
  Json.object
    [Json.member "domain" (.str sheet.domain),
      Json.items? "records" (sheet.records.map Json.Codec.toJson),
      Json.member? "error" (sheet.error.map .str),
      Json.member? "skipped" (sheet.skipped.map .str)]

/-- The reports as one array over several lines. -/
def json (sheets : List Sheet) : String := (Json.arr (sheets.map toJson)).pretty

/-- The reports in one line each. -/
def jsonLines (sheets : List Sheet) : String :=
  String.join (sheets.map fun sheet => sheet.toJson.compact ++ "\n")

/-- The names of the columns. -/
def columns : List String :=
  ["domain", "source", "depth", "action", "kind", "value", "origin"]

/-- The rows for a record. -/
def recordRows (domain : String) (record : PolicyRecord) : List (List String) :=
  let row (kind value origin : String) :=
    [domain, record.source, record.depth.repr, record.action.word, kind, value, origin]
  record.addresses.map (fun known => row "address" known.address.text known.origin) ++
    record.networks.map (fun known => row "network" known.network.text known.origin)

/-- The rows for a report. -/
def rows (sheet : Sheet) : List (List String) :=
  match sheet.error with
  | some message => [[sheet.domain, "", "", "", "error", message, ""]]
  | none => sheet.records.flatMap (recordRows sheet.domain)

/-- The reports as a table. -/
def csv (sheets : List Sheet) : String := Csv.table (columns :: sheets.flatMap rows)

end Sheet

/-- The reports as one array over several lines. -/
def json (reports : List Report) : String := Sheet.json (reports.map sheet)

/-- The reports in one line each. -/
def jsonLines (reports : List Report) : String := Sheet.jsonLines (reports.map sheet)

/-- The reports as a table. -/
def csv (reports : List Report) : String := Sheet.csv (reports.map sheet)

end SenderPolicy.Report
