import SenderPolicy.Dns.Name
import SenderPolicy.Dns.Resolver
import SenderPolicy.Policy.Findings
import SenderPolicy.Policy.Literal
import SenderPolicy.Policy.Options

/-!
# Following a policy

A policy is followed clause by clause, and a clause that includes or redirects leads to the
policies of another name, which are followed in turn, one level deeper.

Two rules keep this finite.  A name is expanded only once: `Walk` carries the keys of the names
expanded so far, and a clause that leads to one of them is noted as a cycle.  And there is a
largest depth: `expand` recurses on the number of levels that are left, so the bound is what the
recursion is about and not a check inside it.  The first rule goes first, so a clause that breaks
both is a cycle.

## What a failure costs

Every lookup goes through `tolerating`, the one place where the failure policy is consulted.  A
tolerated failure becomes an issue, and everything else goes on as if the answer had been empty.

## Where the state changes

A name counts as expanded from the moment its first well-formed text is followed.  A text that is not
a policy is noted and leaves no trace in the state.
-/

namespace SenderPolicy

/-- A computation that asks questions, may fail, and keeps the keys of the names expanded so
far. -/
abbrev Walk := StateT (List String) (Traced LookupError)

/-- Where a policy text stands: the domain that was asked about, the name that published the text,
and how many steps lie between them. -/
structure Site where
  domain : String
  source : String
  depth : Nat
  deriving DecidableEq, Repr

namespace Expansion

/-- Use the answer of a lookup.  A failure is noted under the name `target`, or ends the walk. -/
def tolerating {α : Type} (policy : FailurePolicy) (target : String) (lookup : Traced LookupError α)
    (use : α → Walk Findings) : Walk Findings := do
  match ← (lookup.attempt : Traced LookupError _) with
  | .ok answer => use answer
  | .error failure =>
    match policy with
    | .abort => (Traced.fail failure : Traced LookupError _)
    | .tolerate => return .ofIssue (.lookupFailed target failure.message)

/-- An entry of the record at a site. -/
def entry (site : Site) (tag : EntryTag) (value : String) : Findings :=
  .ofEntry ⟨site.domain, site.source, tag, value⟩

/-- What one address of a host contributes: itself, or the network that the mask makes of it.  A
mask too long for the address is noted as an invalid network. -/
def ofAddress (site : Site) (origin : String) (mask : HostMask) (address : Address) : Findings :=
  match mask.lengthFor address.family with
  | none => { addresses := [⟨origin, address⟩] }
  | some length =>
    match Network.mask address length true with
    | .ok network => { networks := [⟨origin, network⟩] }
    | .error _ => entry site .invalidNetwork (Network.text ⟨address, length⟩)

variable (resolver : Resolver) (options : ResolveOptions)

/-- What the addresses of a host contribute. -/
def atHost (site : Site) (token : String) (mask : HostMask) (host : String) : Walk Findings :=
  tolerating options.onFailure host (resolver.addresses host) fun addresses =>
    return .join (addresses.map (ofAddress site (host ++ " " ++ token) mask))

/-- What the mail exchanges of a domain contribute. -/
def atMailHosts (site : Site) (token : String) (mask : HostMask) (domain : String) :
    Walk Findings :=
  tolerating options.onFailure domain (resolver.mailHosts domain) fun hosts => do
    return .join (← hosts.mapM (atHost resolver options site token mask))

/-- What an explanation published under a name contributes. -/
def atExplanation (target : String) : Walk Findings :=
  if options.fetchExplanation then
    tolerating options.onFailure target (resolver.texts target) fun texts =>
      return { explanation := texts.head? }
  else return .empty

/-- What a clause contributes, where `expand` follows the policies of another name. -/
def ofClause (expand : Site → String → Walk Findings) (site : Site) (clause : Clause) :
    Walk Findings :=
  match clause.term with
  | .literal family value =>
    return entry site ((Literal.read family value).tag family) value
  | .inclusion target => return entry site .inclusion target ++ (← expand site target)
  | .redirection target => return entry site .redirection target ++ (← expand site target)
  | .host _ _ .malformed value => return entry site .invalidNetwork value
  | .host .a target mask value => do
    return entry site .a value ++
      (← atHost resolver options site clause.token mask (target.getD site.source))
  | .host .mx target mask value => do
    return entry site .mx value ++
      (← atMailHosts resolver options site clause.token mask (target.getD site.source))
  | .existsTest value => return entry site .existsTest value
  | .pointer value => return entry site .pointer value
  | .explanation target => do
    return entry site .explanation target ++ (← atExplanation resolver options target)
  | .version _ | .all _ | .unknown => return .empty

/-- The record of a text: what its clauses contributed, and then the addresses and networks that
it gives literally. -/
def record (site : Site) (raw : String) (statement : Statement) (findings : Findings) :
    PolicyRecord where
  domain := site.domain
  source := site.source
  raw := raw
  version := statement.version
  depth := site.depth
  action := statement.action
  entries := findings.entries
  addresses := findings.addresses ++
    ((statement.clauses.filterMap Literal.ofClause?).filterMap Literal.address?).map
      (⟨site.source, ·⟩)
  networks := findings.networks ++
    ((statement.clauses.filterMap Literal.ofClause?).filterMap Literal.network?).map
      (⟨site.source, ·⟩)
  explanation := findings.explanation
  issues := findings.issues

/-- Follow a well-formed text: its own record, and after it the records that its clauses led to,
in order. -/
def follow (expand : Site → String → Walk Findings) (site : Site) (raw : String)
    (statement : Statement) : Walk (List PolicyRecord) := do
  modify (Name.key site.source :: ·)
  let findings := Findings.join (← statement.clauses.mapM (ofClause resolver options expand site))
  return record site raw statement findings :: findings.nested

/-- Follow one text published under a name that a policy led to. -/
def followText (expand : Site → String → Walk Findings) (site : Site) (raw : String) :
    Walk Findings :=
  match Statement.parse raw with
  | .error reason => return .ofIssue (.malformedInclude site.source reason.message)
  | .ok statement =>
    return { nested := ← follow resolver options expand site raw statement }

/-- Follow the texts published under a name. -/
def followName (expand : Site → String → Walk Findings) (site : Site) : Walk Findings :=
  tolerating options.onFailure site.source (resolver.policyTexts site.source) fun
    | [] => return .ofIssue (.missingRecord site.source)
    | texts => do return .join (← texts.mapM (followText resolver options expand site))

/-- Go on only where a name has not been expanded yet. -/
def unlessExpanded (target : String) (next : Walk Findings) : Walk Findings := do
  if Name.key target ∈ (← get) then return .ofIssue (.cycleDetected target) else next

/-- What the policies of a name contribute to the record that led to it, with `levels` levels
left. -/
def expand : (levels : Nat) → Site → String → Walk Findings
  | 0, site, target =>
    unlessExpanded target (return .ofIssue (.depthExceeded target (site.depth + 1)))
  | levels + 1, site, target =>
    unlessExpanded target
      (followName resolver options (expand levels) ⟨site.domain, target, site.depth + 1⟩)

/-- The records of a domain's own policy text, the root of the resolution. -/
def root (domain raw : String) (statement : Statement) : Traced LookupError (List PolicyRecord) :=
  Prod.fst <$>
    (follow resolver options (expand resolver options options.maxDepth) ⟨domain, domain, 0⟩ raw
      statement).run []

end Expansion

end SenderPolicy
