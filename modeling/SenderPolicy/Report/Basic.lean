import SenderPolicy.Policy.Resolution

/-!
# Reports

A report is what there is to say about one domain: the records of its policy, or why there are none.
A domain that is empty is skipped, which is nothing to worry about.  Everything else that keeps a
domain from having a policy, and everything in a policy that could not be used, puts a flag on the
report.
-/

namespace SenderPolicy

/-- What came of a domain. -/
inductive Finding where
  /-- The records of its policy; none if it publishes no policy. -/
  | resolved (records : List PolicyRecord)
  /-- The resolution failed. -/
  | failed (message : String)
  /-- There was nothing to resolve. -/
  | skipped (reason : String)
  deriving DecidableEq

/-- What there is to say about a domain. -/
structure Report where
  domain : String
  finding : Finding
  deriving DecidableEq

namespace Report

/-- The report of a resolution. -/
def ofOutcome (domain : String) : Except PolicyError (List PolicyRecord) → Report
  | .ok records => ⟨domain, .resolved records⟩
  | .error .emptyDomain => ⟨domain, .skipped "domain missing"⟩
  | .error failure => ⟨domain, .failed failure.message⟩

/-- Resolve the policy of a domain and report what came of it.  The questions that were asked come
with the report. -/
def ofDomain (resolver : Resolver) (options : ResolveOptions) (domain : String) :
    Report × List Query :=
  let resolution := resolve resolver options domain
  (ofOutcome domain resolution.outcome, resolution.queries)

/-- The records, if there are any. -/
def records (report : Report) : List PolicyRecord :=
  match report.finding with
  | .resolved records => records
  | _ => []

/-- Whether the domain publishes no policy. -/
def missingPolicy (report : Report) : Bool :=
  match report.finding with
  | .resolved [] => true
  | _ => false

/-- Whether a record holds something that could not be used, or ran into an issue. -/
def isDoubtful (record : PolicyRecord) : Bool :=
  record.hasInvalidEntries || !record.issues.isEmpty

/-- Whether somebody should have a look at the domain. -/
def flagged (report : Report) : Bool :=
  match report.finding with
  | .resolved records => records.isEmpty || records.any isDoubtful
  | .failed _ => true
  | .skipped _ => false

/-- Whether somebody should have a look at some domain. -/
def anyFlagged (reports : List Report) : Bool := reports.any flagged

end Report

end SenderPolicy
