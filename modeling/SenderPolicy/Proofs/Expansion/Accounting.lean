import Mathlib
import SenderPolicy.Dns.Zone
import SenderPolicy.Proofs.Expansion.Trail
import SenderPolicy.Proofs.Expansion.Visited

/-!
# What became of every clause

No clause that leads to another name is dropped in silence: each of them has one outcome, and the
outcome shows in the result.  Nor is there a record without a clause: each but the first has one
parent, whose clause has asked for it.  `accounted_of_isResult` says so of every result.

* `Outcome.Holds` is what an outcome claims: a cycle that the name has a record, an exceeded depth
  that none is left, a failure and a missing policy what the resolver has answered, and an answer
  that each well-formed text in it has a record of its own.
* `LookupIssue` is what a clause that leads nowhere can leave on its record.

The claim about cycles is the one that needs an invariant: a key is in the list only if some record
is under it, so names whose policies were missing, malformed or out of reach are never noted as
cycles.  What an outcome claims stays true while the course goes on, since keys and visits are
added and none is taken away.
-/

namespace SenderPolicy

namespace Expansion

/-! ## Issues of lookups -/

/-- The issues that a term of a text published under `source` can leave by itself. -/
inductive LookupIssue (resolver : Resolver) (options : ResolveOptions) (source : String) :
    Term → Issue → Prop where
  /-- The addresses of an `a` could not be looked up. -/
  | a {target : Option String} {mask : HostMask} {value : String} {failure : LookupError}
      (hfailure : (resolver.addresses (target.getD source)).outcome = .error failure) :
      LookupIssue resolver options source (.host .a target mask value)
        (.lookupFailed (target.getD source) failure.message)
  /-- The exchanges of an `mx` could not be looked up. -/
  | mx {target : Option String} {mask : HostMask} {value : String} {failure : LookupError}
      (hfailure : (resolver.mailHosts (target.getD source)).outcome = .error failure) :
      LookupIssue resolver options source (.host .mx target mask value)
        (.lookupFailed (target.getD source) failure.message)
  /-- The addresses of an exchange could not be looked up. -/
  | exchange {target : Option String} {mask : HostMask} {value host : String}
      {hosts : List String} {failure : LookupError}
      (hhosts : (resolver.mailHosts (target.getD source)).outcome = .ok hosts)
      (hhost : host ∈ hosts) (hfailure : (resolver.addresses host).outcome = .error failure) :
      LookupIssue resolver options source (.host .mx target mask value)
        (.lookupFailed host failure.message)
  /-- The explanation could not be looked up. -/
  | explanation {target : String} {failure : LookupError}
      (hfetch : options.fetchExplanation = true)
      (hfailure : (resolver.texts target).outcome = .error failure) :
      LookupIssue resolver options source (.explanation target)
        (.lookupFailed target failure.message)

section

variable {resolver : Resolver} {options : ResolveOptions}

theorem mem_issues_noting {α : Type} {target : String} {outcome : Except LookupError α}
    {use : α → Findings} {issue : Issue} (h : issue ∈ (noting target outcome use).issues) :
    (∃ a, outcome = .ok a ∧ issue ∈ (use a).issues) ∨
      ∃ failure, outcome = .error failure ∧ issue = .lookupFailed target failure.message := by
  cases outcome with
  | ok a => exact Or.inl ⟨a, rfl, h⟩
  | error failure => exact Or.inr ⟨failure, rfl, List.mem_singleton.mp h⟩

theorem issues_ofAddress (site : Site) (origin : String) (mask : HostMask) (address : Address) :
    (ofAddress site origin mask address).issues = [] := by
  rw [ofAddress]
  split
  · rfl
  · split <;> rfl

theorem exists_failure_of_mem_issues_ownOfHost {site : Site} {token host : String}
    {mask : HostMask} {issue : Issue}
    (h : issue ∈ (ownOfHost resolver site token mask host).issues) :
    ∃ failure, (resolver.addresses host).outcome = .error failure ∧
      issue = .lookupFailed host failure.message := by
  rcases mem_issues_noting h with ⟨addresses, -, h⟩ | hfailure
  · rw [Findings.issues_join, List.flatMap_map, List.mem_flatMap] at h
    obtain ⟨address, -, hissue⟩ := h
    rw [issues_ofAddress] at hissue
    cases hissue
  · exact hfailure

/-- A clause leaves issues by itself only where a lookup has failed. -/
theorem lookupIssue_of_mem_issues_own {site : Site} {clause : Clause} {issue : Issue}
    (h : issue ∈ (own resolver options site clause).issues) :
    LookupIssue resolver options site.source clause.term issue := by
  obtain ⟨token, term⟩ := clause
  cases term with
  | host kind target mask value =>
    by_cases hmask : mask = .malformed
    · subst hmask
      cases kind <;> cases h
    · cases kind with
      | a =>
        rw [own_a hmask] at h
        obtain ⟨failure, hfailure, rfl⟩ := exists_failure_of_mem_issues_ownOfHost h
        exact .a hfailure
      | mx =>
        rw [own_mx hmask] at h
        rcases mem_issues_noting h with ⟨hosts, hhosts, h⟩ | ⟨failure, hfailure, rfl⟩
        · rw [Findings.issues_join, List.flatMap_map, List.mem_flatMap] at h
          obtain ⟨host, hhost, h⟩ := h
          obtain ⟨failure, hfailure, rfl⟩ := exists_failure_of_mem_issues_ownOfHost h
          exact .exchange hhosts hhost hfailure
        · exact .mx hfailure
  | explanation target =>
    replace h : issue ∈ (ownOfExplanation resolver options target).issues := h
    rw [ownOfExplanation] at h
    split at h
    · next hfetch =>
      rcases mem_issues_noting h with ⟨texts, -, h⟩ | ⟨failure, hfailure, rfl⟩
      · cases h
      · exact .explanation hfetch hfailure
    · cases h
  | _ => cases h

/-- An issue of a record is that of a failed lookup, or is left by what became of a clause that
leads to a name. -/
theorem lookupIssue_or_of_mem_issues {site : Site} {raw : String} {statement : Statement}
    {outcomes : List (Option Outcome)} {issue : Issue}
    (h : issue ∈ (recordOf resolver options site raw statement outcomes).issues) :
    (∃ clause ∈ statement.clauses, LookupIssue resolver options site.source clause.term issue) ∨
      ∃ (i : Nat) (clause : Clause) (target : String) (outcome : Outcome),
        statement.clauses[i]? = some clause ∧ clause.target? = some target ∧
          outcomes[i]? = some (some outcome) ∧ issue ∈ outcome.issues target site.depth := by
  obtain ⟨i, clause, outcome, hclause, houtcome, hissue⟩ := mem_issues_recordOf.mp h
  cases outcome with
  | none =>
    exact Or.inl ⟨clause, List.mem_of_getElem? hclause, lookupIssue_of_mem_issues_own hissue⟩
  | some outcome =>
    cases htarget : clause.target? with
    | none => simp [clauseIssues, htarget] at hissue
    | some target =>
      refine Or.inr ⟨i, clause, target, outcome, hclause, htarget, houtcome, ?_⟩
      simpa [clauseIssues, htarget] using hissue

end

/-! ## What outcomes claim -/

/-- Where the task stands. -/
def Task.site : Task → Site
  | .clauses site _ _ _ => site
  | .name site _ _ _ => site
  | .texts site _ _ _ _ => site

section

variable (resolver : Resolver) (options : ResolveOptions) (expanded : List String)
  (visits : List Visit)

/-- What an outcome claims about a name that a clause leads to, where these keys have been expanded
and these visits made. -/
def Outcome.Holds (site : Site) (trail : List Step) (index : Nat) (target : String) :
    Outcome → Prop
  | cycle => Name.key target ∈ expanded
  | tooDeep => site.depth = options.maxDepth
  | failed failure =>
    options.onFailure = .tolerate ∧ (resolver.policyTexts target).outcome = .error failure
  | missing => (resolver.policyTexts target).outcome = .ok []
  | answered texts =>
    texts ≠ [] ∧ (resolver.policyTexts target).outcome = .ok texts ∧
      ∀ k raw, texts[k]? = some raw → Statement.WellFormed raw →
        ∃ visit ∈ visits, visit.IsAt (trail ++ [⟨index, k⟩])
          ⟨site.domain, target, site.depth + 1⟩ raw

/-- The outcome of a clause claims what is so, and is there if the clause leads to a name. -/
def Became (site : Site) (trail : List Step) (index : Nat) (clause : Clause) :
    Option Outcome → Prop
  | none => clause.target? = none
  | some outcome => ∃ target, clause.target? = some target ∧
      outcome.Holds resolver options expanded visits site trail index target

/-- Of every clause in a row became what its outcome says. -/
def RowBecame (site : Site) (trail : List Step) (index : Nat) (row : List Clause)
    (outcomes : List (Option Outcome)) : Prop :=
  ∀ i clause, row[i]? = some clause → ∃ outcome, outcomes[i]? = some outcome ∧
    Became resolver options expanded visits site trail (index + i) clause outcome

end

section

variable {resolver : Resolver} {options : ResolveOptions} {levels : Nat} {task : Task}
  {visited visited' expanded expanded' : List String} {outcomes : List (Option Outcome)}
  {visits visits' : List Visit} {site : Site} {trail : List Step} {index : Nat}

theorem Outcome.Holds.mono {target : String} {outcome : Outcome} (hexpanded : expanded ⊆ expanded')
    (hvisits : visits ⊆ visits')
    (h : outcome.Holds resolver options expanded visits site trail index target) :
    outcome.Holds resolver options expanded' visits' site trail index target := by
  cases outcome with
  | cycle => exact hexpanded h
  | tooDeep => exact h
  | failed failure => exact h
  | missing => exact h
  | answered texts =>
    obtain ⟨hne, htexts, hchildren⟩ := h
    refine ⟨hne, htexts, fun k raw hraw hwf => ?_⟩
    obtain ⟨visit, hvisit, hat⟩ := hchildren k raw hraw hwf
    exact ⟨visit, hvisits hvisit, hat⟩

theorem Became.mono {clause : Clause} {outcome : Option Outcome} (hexpanded : expanded ⊆ expanded')
    (hvisits : visits ⊆ visits')
    (h : Became resolver options expanded visits site trail index clause outcome) :
    Became resolver options expanded' visits' site trail index clause outcome := by
  cases outcome with
  | none => exact h
  | some outcome =>
    obtain ⟨target, htarget, hholds⟩ := h
    exact ⟨target, htarget, hholds.mono hexpanded hvisits⟩

theorem RowBecame.mono {row : List Clause} (hexpanded : expanded ⊆ expanded')
    (hvisits : visits ⊆ visits')
    (h : RowBecame resolver options expanded visits site trail index row outcomes) :
    RowBecame resolver options expanded' visits' site trail index row outcomes := by
  intro i clause hclause
  obtain ⟨outcome, houtcome, hbecame⟩ := h i clause hclause
  exact ⟨outcome, houtcome, hbecame.mono hexpanded hvisits⟩

theorem RowBecame.cons {clause : Clause} {row : List Clause} {outcome : Option Outcome}
    (hclause : Became resolver options expanded visits site trail index clause outcome)
    (hrow : RowBecame resolver options expanded visits site trail (index + 1) row outcomes) :
    RowBecame resolver options expanded visits site trail index (clause :: row)
      (outcome :: outcomes) := by
  intro i c hc
  cases i with
  | zero =>
    obtain rfl := Option.some.inj hc
    exact ⟨outcome, rfl, hclause⟩
  | succ i =>
    have h := hrow i c hc
    rw [Nat.succ_add_eq_add_succ] at h
    exact h

/-! ## What happens on the way -/

/-- The outcomes of the task claim what is so. -/
def Task.Became (resolver : Resolver) (options : ResolveOptions) (expanded : List String)
    (visits : List Visit) (outcomes : List (Option Outcome)) : Task → Prop
  | .clauses site trail index row =>
    RowBecame resolver options expanded visits site trail index row outcomes
  | .name site trail index target => ∃ outcome, outcomes = [some outcome] ∧
      outcome.Holds resolver options expanded visits site trail index target
  | .texts _ _ _ _ _ => True

/-- The visit is the reading of its text, and its outcomes claim what is so. -/
def Visit.Became (resolver : Resolver) (options : ResolveOptions) (expanded : List String)
    (visits : List Visit) (visit : Visit) : Prop :=
  ∃ statement, visit.Reads resolver options statement ∧
    RowBecame resolver options expanded visits visit.site visit.trail 0 statement.clauses
      visit.outcomes

theorem Visit.Became.mono {visit : Visit} (hexpanded : expanded ⊆ expanded')
    (hvisits : visits ⊆ visits') (h : visit.Became resolver options expanded visits) :
    visit.Became resolver options expanded' visits' := by
  obtain ⟨statement, hreads, hrow⟩ := h
  exact ⟨statement, hreads, hrow.mono hexpanded hvisits⟩

/-- An issue that the outcome of a clause leaves is an issue of the record. -/
theorem Visit.Reads.mem_issues {visit : Visit} {statement : Statement}
    (h : visit.Reads resolver options statement) {i : Nat} {clause : Clause} {target : String}
    {outcome : Outcome} {issue : Issue} (hclause : statement.clauses[i]? = some clause)
    (htarget : clause.target? = some target) (houtcome : visit.outcomes[i]? = some (some outcome))
    (hissue : issue ∈ outcome.issues target visit.record.depth) :
    issue ∈ visit.record.issues := by
  rw [h.record_eq, mem_issues_recordOf]
  refine ⟨i, clause, some outcome, hclause, houtcome, ?_⟩
  simp only [clauseIssues, htarget]
  exact hissue

/-- The outcome of a clause that leads to a name claims what is so of the name. -/
theorem Visit.Became.exists_holds {expanded : List String} {visit : Visit}
    (h : visit.Became resolver options expanded visits) {i : Nat} {clause : Clause}
    {target : String}
    (hclause : (Statement.active (Statement.allClauses visit.record.raw))[i]? = some clause)
    (htarget : clause.target? = some target) :
    ∃ outcome : Outcome, visit.outcomes[i]? = some (some outcome) ∧
      outcome.Holds resolver options expanded visits visit.site visit.trail i target ∧
      ∀ issue ∈ outcome.issues target visit.record.depth, issue ∈ visit.record.issues := by
  obtain ⟨statement, hreads, hrow⟩ := h
  rw [← Statement.clauses_of_parse_eq_ok hreads.parse_eq] at hclause
  obtain ⟨outcome, houtcome, hbecame⟩ := hrow i clause hclause
  rw [Nat.zero_add] at hbecame
  cases outcome with
  | none => exact absurd (hbecame.symm.trans htarget) nofun
  | some outcome =>
    obtain ⟨target', htarget', hholds⟩ := hbecame
    obtain rfl := Option.some.inj (htarget.symm.trans htarget')
    exact ⟨outcome, houtcome, hholds,
      fun _ hissue => hreads.mem_issues hclause htarget houtcome hissue⟩

/-- At the end of a course its outcomes claim what is so, and so do those of its visits.  The levels
that are left and the depth add up to the largest depth all the way. -/
theorem Course.became
    (h : Course resolver options levels task visited outcomes visits visited') :
    levels + task.site.depth = options.maxDepth →
      task.Became resolver options visited' visits outcomes ∧
        ∀ visit ∈ visits, visit.Became resolver options visited' visits := by
  induction h with
  | cycle hvisited => exact fun _ => ⟨⟨.cycle, rfl, hvisited⟩, List.forall_mem_nil _⟩
  | tooDeep =>
    intro hlevels
    rw [Nat.zero_add] at hlevels
    exact ⟨⟨.tooDeep, rfl, hlevels⟩, List.forall_mem_nil _⟩
  | @failed _ _ _ _ _ _ failure _ hfailure hpolicy =>
    exact fun _ => ⟨⟨.failed failure, rfl, hpolicy, hfailure⟩, List.forall_mem_nil _⟩
  | missing _ hmissing => exact fun _ => ⟨⟨.missing, rfl, hmissing⟩, List.forall_mem_nil _⟩
  | @answered levels site _ _ _ _ _ raws _ _ hraws hne htexts ih =>
    intro hlevels
    rw [Nat.succ_add_eq_add_succ] at hlevels
    refine ⟨⟨.answered raws, rfl, hne, hraws, fun k raw hraw hwf => ?_⟩, (ih hlevels).2⟩
    obtain ⟨statement, hstatement⟩ := Statement.exists_parse_eq_ok_iff.mpr hwf
    obtain ⟨below, hvisit⟩ := htexts.exists_visit_of_text hstatement hraw
    rw [Nat.zero_add] at hvisit
    exact ⟨_, hvisit, rfl, rfl, rfl⟩
  | noText => exact fun _ => ⟨trivial, List.forall_mem_nil _⟩
  | malformed _ _ ih => exact fun hlevels => ⟨trivial, (ih hlevels).2⟩
  | @followed _ _ _ _ _ _ _ statement _ between after _ below later hraw hclauses hrest ihclauses
      ihrest =>
    intro hlevels
    obtain ⟨hrow, hbelow⟩ := ihclauses hlevels
    have hkeys : between ⊆ after := fun _ => hrest.mem_visited_of_mem
    have hleft : ∀ first : Visit, below ⊆ first :: below ++ later := fun _ _ hvisit =>
      List.mem_append_left _ (List.mem_cons_of_mem _ hvisit)
    have hright : ∀ first : Visit, later ⊆ first :: below ++ later := fun _ _ hvisit =>
      List.mem_append_right _ hvisit
    refine ⟨trivial, fun visit hvisit => ?_⟩
    rcases List.mem_append.mp hvisit with hvisit | hvisit
    · rcases List.mem_cons.mp hvisit with rfl | hvisit
      · exact ⟨statement, reads_of_course hraw hclauses, hrow.mono hkeys (hleft _)⟩
      · exact (hbelow visit hvisit).mono hkeys (hleft _)
    · exact ((ihrest hlevels).2 visit hvisit).mono (fun _ => id) (hright _)
  | noClause =>
    refine fun _ => ⟨fun i clause hclause => ?_, List.forall_mem_nil _⟩
    rw [List.getElem?_nil] at hclause
    cases hclause
  | plain hplain _ ih =>
    intro hlevels
    obtain ⟨hrow, hvisits⟩ := ih hlevels
    exact ⟨hrow.cons hplain, hvisits⟩
  | @leads _ _ _ _ _ _ target _ between after outcome _ below later hlead hname hrest ihname
      ihrest =>
    intro hlevels
    obtain ⟨⟨outcome', houtcome, hholds⟩, hbelow⟩ := ihname hlevels
    obtain rfl := Option.some.inj (List.cons.inj houtcome).1
    obtain ⟨hrow, hlater⟩ := ihrest hlevels
    have hkeys : between ⊆ after := fun _ => hrest.mem_visited_of_mem
    have hleft : below ⊆ below ++ later := List.subset_append_left below later
    have hright : later ⊆ below ++ later := List.subset_append_right below later
    refine ⟨RowBecame.cons ⟨target, hlead, hholds.mono hkeys hleft⟩
      (hrow.mono (fun _ => id) hright), fun visit hvisit => ?_⟩
    rcases List.mem_append.mp hvisit with hvisit | hvisit
    · exact (hbelow visit hvisit).mono hkeys hleft
    · exact (hlater visit hvisit).mono (fun _ => id) hright

/-! ## Results -/

/-- The visits of a resolution claim what is so of each other. -/
theorem Resolved.became (h : Resolved resolver options visits) :
    ∀ visit ∈ visits, visit.Became resolver options (visits.map Visit.key) visits := by
  cases h with
  | nothing => exact List.forall_mem_nil _
  | @root domain raw statement outcomes below visited' hraw hclauses =>
    obtain ⟨hrow, hbelow⟩ := hclauses.became (Nat.add_zero _)
    -- the keys at the end are those of the visits, the root included
    have hkeys : ∀ first : Visit, first.key = Name.key domain →
        visited' ⊆ (first :: below).map Visit.key := by
      intro first hfirst key hkey
      rw [List.map_cons, List.mem_cons]
      rcases hclauses.mem_visited_iff.mp hkey with ⟨visit, hvisit, rfl⟩ | hkey
      · exact Or.inr (List.mem_map_of_mem hvisit)
      · exact Or.inl ((List.mem_singleton.mp hkey).trans hfirst.symm)
    have hvisits : ∀ first : Visit, below ⊆ first :: below := fun first =>
      List.subset_cons_self first below
    refine List.forall_mem_cons.mpr ⟨⟨statement, reads_of_course hraw hclauses, ?_⟩, ?_⟩
    · exact hrow.mono (hkeys _ rfl) (hvisits _)
    · exact fun visit hvisit => (hbelow visit hvisit).mono (hkeys _ rfl) (hvisits _)

/-- A record is accounted for: what is noted on it, what it leads to, and nothing else. -/
structure Accounted (resolver : Resolver) (options : ResolveOptions) (visits : List Visit)
    (visit : Visit) (statement : Statement) : Prop where
  /-- The visit is to a text that states this. -/
  parse_eq : Statement.parse visit.record.raw = .ok statement
  /-- Each clause has one outcome. -/
  length_eq : visit.outcomes.length = statement.clauses.length
  /-- The outcome of a clause that leads to a name claims what is so, others have none. -/
  became : ∀ i clause outcome, statement.clauses[i]? = some clause →
    visit.outcomes[i]? = some outcome →
    Became resolver options (visits.map Visit.key) visits visit.site visit.trail i clause outcome
  /-- The issues are those of the outcomes and of the clauses that have none, in order. -/
  issues_eq : visit.record.issues =
    (List.zipWith (clauseIssues resolver options visit.site) statement.clauses
      visit.outcomes).flatten
  /-- Clauses that lead nowhere leave an issue only where a lookup has failed. -/
  further : ∀ clause ∈ statement.clauses,
    ∀ issue ∈ clauseIssues resolver options visit.site clause none,
      LookupIssue resolver options visit.record.source clause.term issue
  /-- A visit one step further has been led to by that step. -/
  child : ∀ child ∈ visits, ∀ step, child.trail = visit.trail ++ [step] →
    ∃ target texts, visit.LedTo resolver step target texts child

/-- A row of visits is accounted for as a whole: each visit by itself, and where it has come from.
A record that no clause has asked for has no place in it. -/
structure AllAccounted (resolver : Resolver) (options : ResolveOptions) (visits : List Visit) :
    Prop where
  /-- The first visit is the root. -/
  root : ∀ root ∈ visits.head?, root.trail = [] ∧ root.record.depth = 0
  /-- Exactly one visit leads to each of the others. -/
  parent : ∀ visit ∈ visits.tail, ∃! parent, parent ∈ visits ∧ parent.Leads resolver visit
  /-- A visit stands in front of those it leads to, and these in the order of clauses and texts. -/
  ordered : visits.Pairwise fun x y => x.trail < y.trail
  /-- Each visit is accounted for. -/
  accounted : ∀ visit ∈ visits, ∃ statement, Accounted resolver options visits visit statement

theorem Resolved.accounted (h : Resolved resolver options visits) :
    ∀ visit ∈ visits, ∃ statement, Accounted resolver options visits visit statement := by
  intro visit hvisit
  obtain ⟨statement, hreads, hrow⟩ := h.became visit hvisit
  refine ⟨statement, ?_⟩
  constructor
  case parse_eq => exact hreads.parse_eq
  case length_eq => exact hreads.length_eq
  case became =>
    intro i clause outcome hclause houtcome
    obtain ⟨outcome', houtcome', hbecame⟩ := hrow i clause hclause
    obtain rfl := Option.some.inj (houtcome.symm.trans houtcome')
    rw [Nat.zero_add] at hbecame
    exact hbecame
  case issues_eq => exact congrArg PolicyRecord.issues hreads.record_eq
  case further => exact fun clause _ issue hissue => lookupIssue_of_mem_issues_own hissue
  case child =>
    intro child hchild step htrail
    obtain ⟨parent, hparent, target, texts, hparentTrail, hled⟩ :=
      h.exists_ledTo_of_trail_eq hchild htrail
    obtain rfl := h.eq_of_trail_eq hparent hvisit hparentTrail
    exact ⟨target, texts, hled⟩

/-- No clause that leads to another name is dropped in silence, and no record is there without one:
the records of every result are those of visits that are accounted for. -/
theorem accounted_of_isResult {records : List PolicyRecord}
    (h : IsResult resolver options records) :
    ∃ visits : List Visit, visits.map (·.record) = records ∧
      AllAccounted resolver options visits := by
  obtain ⟨visits, hvisits, rfl⟩ := exists_resolved_of_isResult h
  refine ⟨visits, rfl, ?_⟩
  constructor
  case root =>
    exact fun root hroot => ⟨hvisits.trail_head root hroot, (hvisits.site_head root hroot).1⟩
  case parent => exact hvisits.existsUnique_leads
  case ordered => exact hvisits.pairwise_trail_lt
  case accounted => exact hvisits.accounted

/-- One clause that leads back, one to a name without a policy, and one to a text that leads too
deep. -/
theorem accounted_of_zone :
    let resolver := Zone.resolver [⟨"d", .txt, .ok [.text "v=spf1 include:e"]⟩]
    let options : ResolveOptions := { maxDepth := 1 }
    let text (source raw : String) (depth : Nat) (targets : List String) (issues : List Issue) :
        PolicyRecord :=
      ⟨"a", source, raw, "spf1", depth, .neutral, targets.map (⟨"a", source, .inclusion, ·⟩), [],
        [], none, issues⟩
    let records := [
      text "a" "v=spf1 include:A include:b include:d" 0 ["A", "b", "d"]
        [.cycleDetected "A", .missingRecord "b"],
      text "d" "v=spf1 include:e" 1 ["e"] [.depthExceeded "e" 2]]
    IsResult resolver options records ∧
      ∃ visits : List Visit, visits.map (·.record) = records ∧
        AllAccounted resolver options visits := by
  intro resolver options text records
  have hresult : IsResult resolver options records := by
    refine Or.inl ⟨"a", "v=spf1 include:A include:b include:d", outcome_parseRecord_eq_ok.mpr
      ⟨"a", ⟨"spf1", .neutral, [⟨"v=spf1", .version "spf1"⟩, ⟨"include:A", .inclusion "A"⟩,
        ⟨"include:b", .inclusion "b"⟩, ⟨"include:d", .inclusion "d"⟩]⟩, rfl,
        by decide +kernel, by decide +kernel⟩⟩
  exact ⟨hresult, accounted_of_isResult hresult⟩

end

end Expansion

end SenderPolicy
