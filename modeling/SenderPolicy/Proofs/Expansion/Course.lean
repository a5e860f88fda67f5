import SenderPolicy.Policy.Resolution
import SenderPolicy.Proofs.Expansion.Walk
import SenderPolicy.Proofs.Policy.WellFormed

/-!
# The course of a resolution

A resolution hands back a plain list of records.  This file says where each of them came from and
what became of each clause on the way, without a word about how the walk is computed.

* A `Visit` is a record with its `trail`, the steps that lead to it from the root, and with one
  `Outcome` for each clause that leads to another name.
* `own` is what a clause contributes by itself, and `contribution` what a row of clauses
  contributes; so the record of a text is an expression in the text, the site and the outcomes.
* `Course` relates what is to be done, the keys of the names expanded so far, the outcomes, the
  visits, and the keys afterwards.

The main statement is `exists_resolved_of_isResult`: the records of every result are those of the
visits of some course.  It is proved once, from what a walk `Yields`; what is claimed about results
is then an induction over courses, in which neither a monad nor the recursion on levels appears.

## Why the task is a parameter

The walk is three recursions in one: over the clauses of a text, over the texts of a name, and from
a clause to a name.  `Task` names the three, so that one inductive relation covers them and an
invariant may say something else about each.
-/

namespace SenderPolicy

namespace Expansion

/-! ## Visits -/

/-- A step from a record to another: the number of the clause that leads there, and the number of
the text among those that the name publishes. -/
structure Step where
  clause : Nat
  text : Nat
  deriving DecidableEq, Repr

/-- What became of a clause that leads to another name. -/
inductive Outcome where
  /-- The name has been expanded already. -/
  | cycle
  /-- No levels are left. -/
  | tooDeep
  /-- The lookup failed, and that is tolerated. -/
  | failed (failure : LookupError)
  /-- The name publishes no policy. -/
  | missing
  /-- The name publishes these texts. -/
  | answered (texts : List String)
  deriving DecidableEq, Repr

/-- A record of a resolution, with the steps that lead to it and with what became of its
clauses; a clause that leads nowhere has no outcome. -/
structure Visit where
  trail : List Step
  record : PolicyRecord
  outcomes : List (Option Outcome)

/-- The key of the name that published the record. -/
def Visit.key (visit : Visit) : String := Name.key visit.record.source

/-- The issue that a text is if it is malformed. -/
def malformedIssue? (source raw : String) : Option Issue :=
  match Statement.parse raw with
  | .ok _ => none
  | .error reason => some (.malformedInclude source reason.message)

/-- The issues that an outcome leaves on the record that led to the name. -/
def Outcome.issues (target : String) (depth : Nat) : Outcome → List Issue
  | cycle => [.cycleDetected target]
  | tooDeep => [.depthExceeded target (depth + 1)]
  | failed failure => [.lookupFailed target failure.message]
  | missing => [.missingRecord target]
  | answered texts => texts.filterMap (malformedIssue? target)

/-! ## What clauses contribute -/

section Contribution

variable (resolver : Resolver) (options : ResolveOptions)

/-- What is made of the outcome of a lookup; a failure becomes an issue. -/
def noting {α : Type} (target : String) (outcome : Except LookupError α) (use : α → Findings) :
    Findings :=
  match outcome with
  | .ok a => use a
  | .error failure => .ofIssue (.lookupFailed target failure.message)

/-- What the addresses of a host contribute. -/
def ownOfHost (site : Site) (token : String) (mask : HostMask) (host : String) : Findings :=
  noting host (resolver.addresses host).outcome fun addresses =>
    .join (addresses.map (ofAddress site (host ++ " " ++ token) mask))

/-- What the mail exchanges of a domain contribute. -/
def ownOfMailHosts (site : Site) (token : String) (mask : HostMask) (domain : String) : Findings :=
  noting domain (resolver.mailHosts domain).outcome fun hosts =>
    .join (hosts.map (ownOfHost resolver site token mask))

/-- What an explanation published under a name contributes. -/
def ownOfExplanation (target : String) : Findings :=
  if options.fetchExplanation then
    noting target (resolver.texts target).outcome fun texts => { explanation := texts.head? }
  else .empty

/-- What a clause contributes by itself, without the policies that it leads to. -/
def own (site : Site) (clause : Clause) : Findings :=
  match clause.term with
  | .literal family value => entry site ((Literal.read family value).tag family) value
  | .inclusion target => entry site .inclusion target
  | .redirection target => entry site .redirection target
  | .host _ _ .malformed value => entry site .invalidNetwork value
  | .host .a target mask value =>
    entry site .a value ++ ownOfHost resolver site clause.token mask (target.getD site.source)
  | .host .mx target mask value =>
    entry site .mx value ++ ownOfMailHosts resolver site clause.token mask (target.getD site.source)
  | .existsTest value => entry site .existsTest value
  | .pointer value => entry site .pointer value
  | .explanation target =>
    entry site .explanation target ++ ownOfExplanation resolver options target
  | .version _ | .all _ | .unknown => .empty

/-- The issues that a clause leaves on its record. -/
def clauseIssues (site : Site) (clause : Clause) : Option Outcome → List Issue
  | some outcome => clause.target?.elim [] fun target => outcome.issues target site.depth
  | none => (own resolver options site clause).issues

/-- What a row of clauses contributes to its record, given what became of those that lead to
another name. -/
def contribution (site : Site) (clauses : List Clause) (outcomes : List (Option Outcome)) :
    Findings :=
  { Findings.join (clauses.map (own resolver options site)) with
    issues := (List.zipWith (clauseIssues resolver options site) clauses outcomes).flatten }

/-- The record of a text, given what became of its clauses. -/
def recordOf (site : Site) (raw : String) (statement : Statement)
    (outcomes : List (Option Outcome)) : PolicyRecord :=
  record site raw statement (contribution resolver options site statement.clauses outcomes)

end Contribution

section

variable {resolver : Resolver} {options : ResolveOptions}

/-- Unless its mask is malformed, a clause about hosts is noted in one entry and brings what they
bring. -/
theorem own_a {site : Site} {token value : String} {target : Option String} {mask : HostMask}
    (hmask : mask ≠ .malformed) :
    own resolver options site ⟨token, .host .a target mask value⟩ =
      entry site .a value ++ ownOfHost resolver site token mask (target.getD site.source) := by
  cases mask <;> first | rfl | exact absurd rfl hmask

theorem own_mx {site : Site} {token value : String} {target : Option String} {mask : HostMask}
    (hmask : mask ≠ .malformed) :
    own resolver options site ⟨token, .host .mx target mask value⟩ =
      entry site .mx value ++
        ownOfMailHosts resolver site token mask (target.getD site.source) := by
  cases mask <;> first | rfl | exact absurd rfl hmask

/-- A clause that leads to a name is noted in one entry and contributes nothing else. -/
theorem own_of_target? {site : Site} {clause : Clause} {target : String}
    (hlead : clause.target? = some target) :
    ∃ tag, own resolver options site clause = entry site tag target := by
  obtain ⟨token, term⟩ := clause
  cases term with
  | inclusion name =>
    obtain rfl : name = target := Option.some.inj hlead
    exact ⟨.inclusion, rfl⟩
  | redirection name =>
    obtain rfl : name = target := Option.some.inj hlead
    exact ⟨.redirection, rfl⟩
  | _ => cases hlead

end

/-! ## Courses -/

/-- What is to be done: read the clauses of a record from a number on, follow the name that a
clause leads to, or read the texts of that name from a number on.  The trail is that of the record
whose clauses they are; the site of a text is that of the text itself. -/
inductive Task where
  | clauses (site : Site) (trail : List Step) (index : Nat) (clauses : List Clause)
  | name (site : Site) (trail : List Step) (index : Nat) (target : String)
  | texts (site : Site) (trail : List Step) (index text : Nat) (raws : List String)

variable (resolver : Resolver) (options : ResolveOptions)

/-- With so many levels left and these keys expanded, the task comes to these outcomes and visits,
and to the keys at the end. -/
inductive Course : Nat → Task → List String → List (Option Outcome) → List Visit →
    List String → Prop where
  | cycle {levels : Nat} {site : Site} {trail : List Step} {index : Nat} {target : String}
      {visited : List String} (hvisited : Name.key target ∈ visited) :
      Course levels (.name site trail index target) visited [some .cycle] [] visited
  | tooDeep {site : Site} {trail : List Step} {index : Nat} {target : String}
      {visited : List String} (hnew : Name.key target ∉ visited) :
      Course 0 (.name site trail index target) visited [some .tooDeep] [] visited
  | failed {levels : Nat} {site : Site} {trail : List Step} {index : Nat} {target : String}
      {visited : List String} {failure : LookupError} (hnew : Name.key target ∉ visited)
      (hfailure : (resolver.policyTexts target).outcome = .error failure)
      (hpolicy : options.onFailure = .tolerate) :
      Course (levels + 1) (.name site trail index target) visited [some (.failed failure)] []
        visited
  | missing {levels : Nat} {site : Site} {trail : List Step} {index : Nat} {target : String}
      {visited : List String} (hnew : Name.key target ∉ visited)
      (hmissing : (resolver.policyTexts target).outcome = .ok []) :
      Course (levels + 1) (.name site trail index target) visited [some .missing] [] visited
  | answered {levels : Nat} {site : Site} {trail : List Step} {index : Nat} {target : String}
      {visited visited' : List String} {raws : List String} {visits : List Visit}
      (hnew : Name.key target ∉ visited) (hraws : (resolver.policyTexts target).outcome = .ok raws)
      (hne : raws ≠ [])
      (htexts : Course levels (.texts ⟨site.domain, target, site.depth + 1⟩ trail index 0 raws)
        visited [] visits visited') :
      Course (levels + 1) (.name site trail index target) visited [some (.answered raws)] visits
        visited'
  | noText {levels : Nat} {site : Site} {trail : List Step} {index text : Nat}
      {visited : List String} :
      Course levels (.texts site trail index text []) visited [] [] visited
  | malformed {levels : Nat} {site : Site} {trail : List Step} {index text : Nat} {raw : String}
      {raws : List String} {reason : MalformedReason} {visited visited' : List String}
      {visits : List Visit} (hraw : Statement.parse raw = .error reason)
      (hrest : Course levels (.texts site trail index (text + 1) raws) visited [] visits
        visited') :
      Course levels (.texts site trail index text (raw :: raws)) visited [] visits visited'
  | followed {levels : Nat} {site : Site} {trail : List Step} {index text : Nat} {raw : String}
      {raws : List String} {statement : Statement} {visited between visited' : List String}
      {outcomes : List (Option Outcome)} {below visits : List Visit}
      (hraw : Statement.parse raw = .ok statement)
      (hclauses : Course levels
        (.clauses site (trail ++ [⟨index, text⟩]) 0 statement.clauses)
        (Name.key site.source :: visited) outcomes below between)
      (hrest : Course levels (.texts site trail index (text + 1) raws) between [] visits
        visited') :
      Course levels (.texts site trail index text (raw :: raws)) visited []
        (⟨trail ++ [⟨index, text⟩], recordOf resolver options site raw statement outcomes,
          outcomes⟩ :: below ++ visits) visited'
  | noClause {levels : Nat} {site : Site} {trail : List Step} {index : Nat}
      {visited : List String} :
      Course levels (.clauses site trail index []) visited [] [] visited
  | plain {levels : Nat} {site : Site} {trail : List Step} {index : Nat} {clause : Clause}
      {clauses : List Clause} {visited visited' : List String} {outcomes : List (Option Outcome)}
      {visits : List Visit} (hplain : clause.target? = none)
      (hrest : Course levels (.clauses site trail (index + 1) clauses) visited outcomes visits
        visited') :
      Course levels (.clauses site trail index (clause :: clauses)) visited (none :: outcomes)
        visits visited'
  | leads {levels : Nat} {site : Site} {trail : List Step} {index : Nat} {clause : Clause}
      {clauses : List Clause} {target : String} {visited between visited' : List String}
      {outcome : Outcome} {outcomes : List (Option Outcome)} {below visits : List Visit}
      (hlead : clause.target? = some target)
      (hname : Course levels (.name site trail index target) visited [some outcome] below between)
      (hrest : Course levels (.clauses site trail (index + 1) clauses) between outcomes visits
        visited') :
      Course levels (.clauses site trail index (clause :: clauses)) visited
        (some outcome :: outcomes) (below ++ visits) visited'

/-- The visits are those of a resolution: there are none, or they start with the text of the
domain itself. -/
inductive Resolved : List Visit → Prop where
  | nothing : Resolved []
  | root {domain raw : String} {statement : Statement} {outcomes : List (Option Outcome)}
      {below : List Visit} {visited' : List String} (hraw : Statement.parse raw = .ok statement)
      (hclauses : Course resolver options options.maxDepth
        (.clauses ⟨domain, domain, 0⟩ [] 0 statement.clauses) [Name.key domain] outcomes below
        visited') :
      Resolved (⟨[], recordOf resolver options ⟨domain, domain, 0⟩ raw statement outcomes,
        outcomes⟩ :: below)

/-- The records are a result: of a text that is at hand, or of the policy of a domain. -/
def IsResult (records : List PolicyRecord) : Prop :=
  (∃ domain raw, (parseRecord resolver options domain raw).outcome = .ok records) ∨
    ∃ domain, (resolve resolver options domain).outcome = .ok records

end Expansion

end SenderPolicy
