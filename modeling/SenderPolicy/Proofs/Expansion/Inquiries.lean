import SenderPolicy.Proofs.Expansion.Abort
import SenderPolicy.Proofs.Expansion.Deliveries
import SenderPolicy.Proofs.Expansion.Trail

/-!
# What a resolution asks

A resolution leaves a log of its questions.  This file says of each of them which clause it is asked
for.

* `asked` is what a clause asks by itself, given what became of the name that it leads to; what is
  asked for the policies of that name is not part of it.
* An `Inquiry` is one clause of one record with its questions.
* `Course.exists_inquiries`: the log is that of the inquiries of a row.  There is one of them for
  each clause that the course deals with, and they stand in the order of their places, that is, the
  clause in front of the clauses that it leads to, and these in front of the next clause.

The log of a walk is read off its two parts only if the first one yields something
(`queries_bind`).  So the statement is about a walk that does, and its proof takes apart what the
walk yields along the course that is known to be behind it.
-/

namespace SenderPolicy

open Statement

/-! ## What a clause asks -/

/-- The questions about the addresses of a host: IPv4, and then IPv6 unless that has failed. -/
def Resolver.askedOfHost (resolver : Resolver) (host : String) : List Query :=
  ⟨host, .a⟩ :: if (resolver host .a).isOk then [⟨host, .aaaa⟩] else []

/-- What a clause that leads to no name asks, in a text published under `source`. -/
def Clause.asked (resolver : Resolver) (options : ResolveOptions) (source : String)
    (clause : Clause) : List Query :=
  match clause.term with
  | .host _ _ .malformed _ => []
  | .host .a target _ _ => resolver.askedOfHost (target.getD source)
  | .host .mx target _ _ =>
    ⟨target.getD source, .mx⟩ ::
      (resolver.exchangesFound (target.getD source)).flatMap resolver.askedOfHost
  | .explanation target => if options.fetchExplanation then [⟨target, .txt⟩] else []
  | _ => []

theorem Clause.asked_a {resolver : Resolver} {options : ResolveOptions}
    {source token value : String} {target : Option String} {mask : HostMask}
    (hmask : mask ≠ .malformed) :
    Clause.asked resolver options source ⟨token, .host .a target mask value⟩ =
      resolver.askedOfHost (target.getD source) := by
  cases mask <;> first | rfl | exact absurd rfl hmask

theorem Clause.asked_mx {resolver : Resolver} {options : ResolveOptions}
    {source token value : String} {target : Option String} {mask : HostMask}
    (hmask : mask ≠ .malformed) :
    Clause.asked resolver options source ⟨token, .host .mx target mask value⟩ =
      ⟨target.getD source, .mx⟩ ::
        (resolver.exchangesFound (target.getD source)).flatMap resolver.askedOfHost := by
  cases mask <;> first | rfl | exact absurd rfl hmask

namespace Expansion

/-- What is asked about a name that a clause leads to. -/
def Outcome.asked (target : String) : Outcome → List Query
  | cycle | tooDeep => []
  | failed _ | missing | answered _ => [⟨target, .txt⟩]

/-- What a clause asks by itself. -/
def asked (resolver : Resolver) (options : ResolveOptions) (source : String) (clause : Clause) :
    Option Outcome → List Query
  | some outcome => clause.target?.elim [] outcome.asked
  | none => clause.asked resolver options source

/-- A clause of a record, by the trail of the record and its number, with what it asks. -/
structure Inquiry where
  trail : List Step
  clause : Nat
  queries : List Query

/-- Where the inquiry stands among the others. -/
def Inquiry.place (inquiry : Inquiry) : List Step := inquiry.trail ++ [⟨inquiry.clause, 0⟩]

section

variable (resolver : Resolver) (options : ResolveOptions)

/-- The inquiries of a row of clauses, the first of which has the number `index`. -/
def rowInquiries (source : String) (trail : List Step) :
    Nat → List Clause → List (Option Outcome) → List Inquiry
  | index, clause :: clauses, outcome :: outcomes =>
    ⟨trail, index, asked resolver options source clause outcome⟩ ::
      rowInquiries source trail (index + 1) clauses outcomes
  | _, _, _ => []

/-- The inquiries of the clauses of a visit. -/
def Visit.inquiries (visit : Visit) : List Inquiry :=
  rowInquiries resolver options visit.record.source visit.trail 0
    (active (allClauses visit.record.raw)) visit.outcomes

/-- The inquiries of the clauses that belong to the record of the task. -/
def Task.inquiries (outcomes : List (Option Outcome)) : Task → List Inquiry
  | .clauses site trail index row =>
    rowInquiries resolver options site.source trail index row outcomes
  | .name _ trail index target =>
    (outcomes.filterMap id).map fun outcome => ⟨trail, index, outcome.asked target⟩
  | .texts _ _ _ _ _ => []

/-- The walk that does the task. -/
def Task.walk (levels : Nat) : Task → Walk Findings
  | .clauses site _ _ row =>
    Findings.join <$> row.mapM
      (ofClause resolver options (expand resolver options levels) site)
  | .name site _ _ target => expand resolver options levels site target
  | .texts site _ _ _ raws =>
    Findings.join <$> raws.mapM
      (followText resolver options (expand resolver options levels) site)

/-- The inquiries are those of the clauses that the task deals with, each at its place. -/
structure Conducted (task : Task) (outcomes : List (Option Outcome)) (visits : List Visit)
    (inquiries : List Inquiry) : Prop where
  perm : inquiries.Perm (task.inquiries resolver options outcomes ++
    visits.flatMap (·.inquiries resolver options))
  ordered : inquiries.Pairwise fun x y => x.place < y.place

end

variable {resolver : Resolver} {options : ResolveOptions} {expand : Site → String → Walk Findings}
  {site : Site} {visited visited' : List String} {f : Findings}

/-! ## The log of a walk -/

theorem queries_map {α β : Type} (g : α → β) (walk : Walk α) (visited : List String) :
    ((g <$> walk).run visited).queries = (walk.run visited).queries := by
  rw [StateT.run_map, Traced.queries_map]

theorem queries_tolerating {α : Type} (policy : FailurePolicy) (target : String)
    (lookup : Traced LookupError α) (use : α → Walk Findings) (visited : List String) :
    ((tolerating policy target lookup use).run visited).queries =
      lookup.queries ++ match lookup.outcome with
        | .ok a => ((use a).run visited).queries
        | .error _ => [] := by
  rw [run_tolerating]
  cases lookup.outcome with
  | ok a => rfl
  | error failure => cases policy <;> exact (List.append_nil _).symm

theorem queries_mailHosts (domain : String) :
    (resolver.mailHosts domain).queries = [⟨domain, .mx⟩] := by
  cases h : resolver domain .mx <;> simp [Resolver.mailHosts, bind, Traced.bind, h]

theorem queries_texts (resolver : Resolver) (name : String) :
    (resolver.texts name).queries = [⟨name, .txt⟩] := by
  cases h : resolver name .txt <;> simp [Resolver.texts, bind, Traced.bind, h]

theorem queries_policyTexts (name : String) :
    (resolver.policyTexts name).queries = [⟨name, .txt⟩] := by
  have htexts := queries_texts resolver name
  cases h : (resolver.texts name).outcome with
  | ok texts => rw [Resolver.policyTexts, Traced.bind_of_ok h, htexts]; rfl
  | error failure => rw [Resolver.policyTexts, Traced.bind_of_error h, htexts]

theorem queries_atHost (token : String) (mask : HostMask) (host : String) :
    ((atHost resolver options site token mask host).run visited).queries =
      resolver.askedOfHost host := by
  have hasked : (resolver.addresses host).queries = resolver.askedOfHost host := by
    rw [Resolver.queries_addresses, Resolver.askedOfHost]
    cases resolver host .a <;> rfl
  rw [atHost, queries_tolerating, hasked]
  cases (resolver.addresses host).outcome <;> exact List.append_nil _

theorem queries_atExplanation (target : String) :
    ((atExplanation resolver options target).run visited).queries =
      if options.fetchExplanation then [⟨target, .txt⟩] else [] := by
  rw [atExplanation]
  split
  · rw [queries_tolerating, queries_texts]
    cases (resolver.texts target).outcome <;> rfl
  · rfl

/-- The log of a row of walks is that of the first one and that of the rest. -/
theorem queries_join_mapM_cons {α : Type} {g : α → Walk Findings} {a : α} (as : List α)
    {between : List String} (h : Yields (g a) visited f between) :
    ((Findings.join <$> (a :: as).mapM g).run visited).queries =
      ((g a).run visited).queries ++ ((Findings.join <$> as.mapM g).run between).queries := by
  rw [Findings.join_mapM_cons, queries_bind h, queries_map]

theorem queries_join_mapM_nil {α : Type} (g : α → Walk Findings) (visited : List String) :
    ((Findings.join <$> [].mapM g).run visited).queries = [] := by
  rw [queries_map, List.mapM_nil]
  rfl

/-- What a row of walks yields is yielded by the first one and then by the rest. -/
theorem yields_join_mapM_cons {α : Type} {g : α → Walk Findings} {a : α} {as : List α}
    (h : Yields (Findings.join <$> (a :: as).mapM g) visited f visited') :
    ∃ first between rest, Yields (g a) visited first between ∧
      Yields (Findings.join <$> as.mapM g) between rest visited' := by
  rw [Findings.join_mapM_cons] at h
  obtain ⟨first, between, hfirst, h⟩ := yields_bind.mp h
  rw [map_eq_pure_bind] at h
  obtain ⟨rest, after, hrest, h⟩ := yields_bind.mp h
  obtain ⟨-, rfl⟩ := yields_pure.mp h
  exact ⟨first, between, rest, hfirst, hrest⟩

theorem queries_hosts {token : String} {mask : HostMask} {hosts : List String} :
    ∀ {visited visited' : List String} {f : Findings},
      Yields (Findings.join <$> hosts.mapM (atHost resolver options site token mask)) visited f
        visited' →
      ((Findings.join <$> hosts.mapM (atHost resolver options site token mask)).run
        visited).queries = hosts.flatMap resolver.askedOfHost := by
  induction hosts with
  | nil =>
    intro visited visited' f _
    exact queries_join_mapM_nil _ visited
  | cons host hosts ih =>
    intro visited visited' f h
    obtain ⟨first, between, rest, hfirst, hrest⟩ := yields_join_mapM_cons h
    rw [queries_join_mapM_cons _ hfirst, queries_atHost, ih hrest, List.flatMap_cons]

theorem queries_atMailHosts {token domain : String} {mask : HostMask}
    (h : Yields (atMailHosts resolver options site token mask domain) visited f visited') :
    ((atMailHosts resolver options site token mask domain).run visited).queries =
      ⟨domain, .mx⟩ :: (resolver.exchangesFound domain).flatMap resolver.askedOfHost := by
  rw [atMailHosts] at h ⊢
  simp only [← map_eq_pure_bind] at h ⊢
  rw [queries_tolerating, queries_mailHosts, ← Resolver.found_outcome_mailHosts]
  rcases yields_tolerating.mp h with ⟨hosts, hhosts, h⟩ | ⟨failure, hfailure, -⟩
  · rw [hhosts]
    exact congrArg _ (queries_hosts h)
  · rw [hfailure]
    rfl

/-- What follows an entry asks the same without it. -/
theorem queries_entry_append (e : Findings) (walk : Walk Findings) (visited : List String) :
    (((do return e ++ (← walk)) : Walk Findings).run visited).queries =
      (walk.run visited).queries := by
  rw [← map_eq_pure_bind, queries_map]

/-- A clause that leads to no name asks its own questions. -/
theorem queries_ofClause_of_plain {clause : Clause} (hplain : clause.target? = none)
    (h : Yields (ofClause resolver options expand site clause) visited f visited') :
    ((ofClause resolver options expand site clause).run visited).queries =
      clause.asked resolver options site.source := by
  obtain ⟨token, term⟩ := clause
  cases term with
  | inclusion target => cases hplain
  | redirection target => cases hplain
  | host kind target mask value =>
    by_cases hmask : mask = .malformed
    · subst hmask
      cases kind <;> rfl
    · cases kind with
      | a =>
        rw [ofClause_a hmask, queries_entry_append, queries_atHost, Clause.asked_a hmask]
      | mx =>
        rw [ofClause_mx hmask] at h ⊢
        obtain ⟨g, hg, -⟩ := h.eq_append
        rw [queries_entry_append, queries_atMailHosts hg, Clause.asked_mx hmask]
  | explanation target =>
    have hclause : ofClause resolver options expand site ⟨token, .explanation target⟩ = do
        return entry site .explanation target ++ (← atExplanation resolver options target) := rfl
    rw [hclause, queries_entry_append, queries_atExplanation]
    rfl
  | _ => rfl

/-- A clause that leads to a name asks what is asked for that name. -/
theorem queries_ofClause_of_leads {clause : Clause} {target : String}
    (hlead : clause.target? = some target) (visited : List String) :
    ((ofClause resolver options expand site clause).run visited).queries =
      ((expand site target).run visited).queries := by
  obtain ⟨token, term⟩ := clause
  cases term with
  | inclusion name | redirection name =>
    obtain rfl : name = target := Option.some.inj hlead
    exact queries_entry_append _ _ visited
  | _ => cases hlead

/-! ## Places -/

section

variable {levels : Nat} {task : Task} {outcomes : List (Option Outcome)} {visits : List Visit}
  {inquiries : List Inquiry} {inquiry : Inquiry} {trail : List Step} {index : Nat}

/-- The inquiries of a row belong to its clauses, which are numbered from `index` on. -/
theorem exists_of_mem_rowInquiries {source : String} {row : List Clause} :
    ∀ {index : Nat} {outcomes : List (Option Outcome)},
      inquiry ∈ rowInquiries resolver options source trail index row outcomes →
      ∃ i clause outcome, row[i]? = some clause ∧ outcomes[i]? = some outcome ∧
        inquiry = ⟨trail, index + i, asked resolver options source clause outcome⟩ := by
  induction row with
  | nil =>
    intro index outcomes h
    cases h
  | cons clause row ih =>
    intro index outcomes h
    cases outcomes with
    | nil => cases h
    | cons outcome outcomes =>
      rcases List.mem_cons.mp h with rfl | h
      · exact ⟨0, clause, outcome, rfl, rfl, rfl⟩
      · obtain ⟨i, clause', outcome', hclause, houtcome, rfl⟩ := ih h
        refine ⟨i + 1, clause', outcome', hclause, houtcome, ?_⟩
        rw [Nat.succ_add_eq_add_succ]

theorem length_rowInquiries {source : String} {row : List Clause} :
    ∀ {index : Nat} {outcomes : List (Option Outcome)}, outcomes.length = row.length →
      (rowInquiries resolver options source trail index row outcomes).length = row.length := by
  induction row with
  | nil =>
    intro index outcomes _
    rfl
  | cons clause row ih =>
    intro index outcomes h
    cases outcomes with
    | nil => cases h
    | cons outcome outcomes => exact congrArg (· + 1) (ih (Nat.succ.inj h))

theorem Task.Covers.append {t : List Step} (h : task.Covers t) (rest : List Step) :
    task.Covers (t ++ rest) := by
  cases task with
  | clauses | name | texts =>
    obtain ⟨step, below, hstep, rfl⟩ := h
    exact ⟨step, below ++ rest, hstep, by rw [List.append_assoc, List.cons_append]⟩

/-- An inquiry that a task does not make for its own record belongs to a record below. -/
theorem Course.covers_trail
    (h : Course resolver options levels task visited outcomes visits visited')
    (hconducted : Conducted resolver options task outcomes visits inquiries)
    (hinquiry : inquiry ∈ inquiries)
    (hother : inquiry ∉ task.inquiries resolver options outcomes) : task.Covers inquiry.trail := by
  rcases List.mem_append.mp (hconducted.perm.mem_iff.mp hinquiry) with hown | hbelow
  · exact absurd hown hother
  · obtain ⟨visit, hvisit, hinquiry⟩ := List.mem_flatMap.mp hbelow
    obtain ⟨i, clause, outcome, -, -, rfl⟩ := exists_of_mem_rowInquiries hinquiry
    exact h.covers visit hvisit

theorem Task.covers_place_of_mem (hinquiry : inquiry ∈ task.inquiries resolver options outcomes) :
    task.Covers inquiry.place := by
  cases task with
  | clauses site trail index row =>
    obtain ⟨i, clause, outcome, -, -, rfl⟩ := exists_of_mem_rowInquiries hinquiry
    exact ⟨⟨index + i, 0⟩, [], Nat.le_add_right index i, rfl⟩
  | name site trail index target =>
    obtain ⟨outcome, -, rfl⟩ := List.mem_map.mp hinquiry
    exact ⟨⟨index, 0⟩, [], rfl, rfl⟩
  | texts => cases hinquiry

/-- Whatever a task asks is asked at a place that the task covers. -/
theorem Course.covers_place
    (h : Course resolver options levels task visited outcomes visits visited')
    (hconducted : Conducted resolver options task outcomes visits inquiries)
    (hinquiry : inquiry ∈ inquiries) : task.Covers inquiry.place := by
  by_cases hown : inquiry ∈ task.inquiries resolver options outcomes
  · exact Task.covers_place_of_mem hown
  · exact (h.covers_trail hconducted hinquiry hown).append _

/-! ## The inquiries of a course -/

/-- A clause that leads to a name without records. -/
theorem conducted_name (site : Site) (trail : List Step) (index : Nat) (target : String)
    (outcome : Outcome) :
    Conducted resolver options (.name site trail index target) [some outcome] []
      [⟨trail, index, outcome.asked target⟩] :=
  ⟨.refl _, List.pairwise_singleton _ _⟩

/-- A clause stands in front of what is asked for the texts that it leads to. -/
theorem Conducted.answered {site : Site} {target : String} {raws : List String}
    (hcourse : Course resolver options levels
      (.texts ⟨site.domain, target, site.depth + 1⟩ trail index 0 raws) visited [] visits visited')
    (h : Conducted resolver options
      (.texts ⟨site.domain, target, site.depth + 1⟩ trail index 0 raws) [] visits inquiries) :
    Conducted resolver options (.name site trail index target) [some (.answered raws)] visits
      (⟨trail, index, [⟨target, .txt⟩]⟩ :: inquiries) := by
  refine ⟨h.perm.cons _, List.pairwise_cons.mpr ⟨fun y hy => ?_, h.ordered⟩⟩
  obtain ⟨⟨clause, text⟩, rest, ⟨rfl, -⟩, htrail⟩ := hcourse.covers_trail h hy List.not_mem_nil
  rw [Inquiry.place, Inquiry.place, htrail, List.append_assoc, List.cons_append]
  cases text with
  | zero =>
    have hbelow := trail_lt_append_cons (trail ++ [⟨clause, 0⟩])
    cases rest with
    | nil =>
      have hlt := hbelow ⟨y.clause, 0⟩ []
      rwa [List.append_assoc] at hlt
    | cons step rest =>
      have hlt := hbelow step (rest ++ [⟨y.clause, 0⟩])
      rwa [List.append_assoc] at hlt
  | succ text => exact append_cons_lt_append_cons (Or.inr ⟨rfl, Nat.succ_pos text⟩)

/-- The clauses of a text are those of the visit to it. -/
theorem inquiries_recordOf {site : Site} {raw : String} {statement : Statement}
    (hraw : parse raw = .ok statement) :
    Visit.inquiries resolver options
        ⟨trail, recordOf resolver options site raw statement outcomes, outcomes⟩ =
      Task.inquiries resolver options outcomes (.clauses site trail 0 statement.clauses) := by
  rw [Task.inquiries, clauses_of_parse_eq_ok hraw]
  rfl

/-- A text stands in front of the texts behind it. -/
theorem Conducted.followed {site : Site} {raw : String} {raws : List String} {text : Nat}
    {statement : Statement} {between visited'' : List String} {below : List Visit}
    {first : List Inquiry} (hraw : parse raw = .ok statement)
    (hclauses : Course resolver options levels
      (.clauses site (trail ++ [⟨index, text⟩]) 0 statement.clauses) visited outcomes below between)
    (hrest : Course resolver options levels (.texts site trail index (text + 1) raws) between []
      visits visited'')
    (hfirst : Conducted resolver options
      (.clauses site (trail ++ [⟨index, text⟩]) 0 statement.clauses) outcomes below first)
    (h : Conducted resolver options (.texts site trail index (text + 1) raws) [] visits inquiries) :
    Conducted resolver options (.texts site trail index text (raw :: raws)) []
      (⟨trail ++ [⟨index, text⟩], recordOf resolver options site raw statement outcomes,
        outcomes⟩ :: below ++ visits) (first ++ inquiries) := by
  refine ⟨?_, List.pairwise_append.mpr ⟨hfirst.ordered, h.ordered, fun x hx y hy => ?_⟩⟩
  · have hall := hfirst.perm.append h.perm
    rw [← inquiries_recordOf hraw, List.append_assoc] at hall
    rw [List.cons_append, List.flatMap_cons, List.flatMap_append]
    exact hall
  · obtain ⟨step, rest, -, hplace⟩ := hclauses.covers_place hfirst hx
    obtain ⟨step', rest', hstep', hplace'⟩ := hrest.covers_place h hy
    rw [hplace, hplace', ← List.append_cons]
    exact append_cons_lt_append_cons (Or.inr ⟨hstep'.1.symm, hstep'.2⟩)

/-- A clause that leads to no name stands in front of those behind it. -/
theorem Conducted.plain {site : Site} {clause : Clause} {row : List Clause}
    (hrest : Course resolver options levels (.clauses site trail (index + 1) row) visited outcomes
      visits visited')
    (h : Conducted resolver options (.clauses site trail (index + 1) row) outcomes visits
      inquiries) :
    Conducted resolver options (.clauses site trail index (clause :: row)) (none :: outcomes) visits
      (⟨trail, index, clause.asked resolver options site.source⟩ :: inquiries) := by
  refine ⟨h.perm.cons _, List.pairwise_cons.mpr ⟨fun y hy => ?_, h.ordered⟩⟩
  obtain ⟨step, rest, hstep, hplace⟩ := hrest.covers_place h hy
  rw [hplace]
  exact append_cons_lt_append_cons (Or.inl hstep)

/-- A clause stands with everything that it leads to in front of those behind it. -/
theorem Conducted.leads {site : Site} {clause : Clause} {row : List Clause} {target : String}
    {outcome : Outcome} {between visited'' : List String} {below : List Visit}
    {first : List Inquiry} (hlead : clause.target? = some target)
    (hname : Course resolver options levels (.name site trail index target) visited [some outcome]
      below between)
    (hrest : Course resolver options levels (.clauses site trail (index + 1) row) between outcomes
      visits visited'')
    (hfirst : Conducted resolver options (.name site trail index target) [some outcome] below first)
    (h : Conducted resolver options (.clauses site trail (index + 1) row) outcomes visits
      inquiries) :
    Conducted resolver options (.clauses site trail index (clause :: row))
      (some outcome :: outcomes) (below ++ visits) (first ++ inquiries) := by
  refine ⟨?_, List.pairwise_append.mpr ⟨hfirst.ordered, h.ordered, fun x hx y hy => ?_⟩⟩
  · have hasked : asked resolver options site.source clause (some outcome) =
        outcome.asked target := by
      rw [asked, hlead]
      rfl
    rw [Task.inquiries, rowInquiries, hasked, List.flatMap_append]
    exact (hfirst.perm.append h.perm).trans ((List.perm_append_comm_assoc ..).cons _)
  · obtain ⟨step, rest, hstep, hplace⟩ := hname.covers_place hfirst hx
    obtain ⟨step', rest', hstep', hplace'⟩ := hrest.covers_place h hy
    rw [hplace, hplace']
    exact append_cons_lt_append_cons (Or.inl (by rw [hstep]; exact hstep'))

/-! ## The log of a course -/

/-- Where a name is expanded already, nothing is asked about it. -/
theorem queries_expand_of_mem {target : String} (hmem : Name.key target ∈ visited)
    (levels : Nat) :
    ((Expansion.expand resolver options levels site target).run visited).queries = [] := by
  cases levels <;> rw [Expansion.expand, run_unlessExpanded, if_pos hmem] <;> rfl

/-- Before the texts of a name that is not expanded yet are followed, the name is looked up. -/
theorem queries_expand_succ (trail : List Step) (index : Nat) {target : String}
    (hnew : Name.key target ∉ visited) (levels : Nat) :
    ((Expansion.expand resolver options (levels + 1) site target).run visited).queries =
      ⟨target, .txt⟩ :: match (resolver.policyTexts target).outcome with
        | .ok [] => []
        | .ok raws => ((Task.walk resolver options levels
            (.texts ⟨site.domain, target, site.depth + 1⟩ trail index 0 raws)).run visited).queries
        | .error _ => [] := by
  rw [Expansion.expand, run_unlessExpanded, if_neg hnew, followName, queries_tolerating,
    queries_policyTexts]
  cases (resolver.policyTexts target).outcome with
  | error failure => rfl
  | ok raws =>
    cases raws with
    | nil => rfl
    | cons raw raws =>
      simp only [Task.walk, map_eq_pure_bind]
      rfl

/-- What a name yields that is not expanded yet is what its lookup and its texts come to. -/
theorem yields_expand_succ (trail : List Step) (index : Nat) {target : String} {levels : Nat}
    {outcome : Except LookupError _} (hnew : Name.key target ∉ visited)
    (houtcome : (resolver.policyTexts target).outcome = outcome)
    (h : Yields (Expansion.expand resolver options (levels + 1) site target) visited f visited') :
    match outcome with
    | .ok [] => visited' = visited
    | .ok raws => ∃ g, Yields (Task.walk resolver options levels
        (.texts ⟨site.domain, target, site.depth + 1⟩ trail index 0 raws)) visited g visited'
    | .error _ => visited' = visited := by
  rw [Expansion.expand] at h
  rcases yields_unlessExpanded.mp h with ⟨hmem, -⟩ | ⟨-, h⟩
  · exact absurd hmem hnew
  · rcases yields_tolerating.mp h with ⟨raws, hraws, h⟩ | ⟨failure, hfailure, -, -, hvisited⟩
    · rw [← houtcome, hraws]
      cases raws with
      | nil => exact (yields_pure.mp h).2
      | cons raw raws =>
        dsimp only [Task.walk]
        rw [map_eq_pure_bind]
        exact ⟨f, h⟩
    · rw [← houtcome, hfailure]
      exact hvisited

/-- A text that is not a policy asks nothing and expands nothing. -/
theorem followText_of_error {raw : String} {reason : MalformedReason}
    (hraw : parse raw = .error reason) :
    followText resolver options expand site raw =
      pure (.ofIssue (.malformedInclude site.source reason.message)) := by
  rw [followText, hraw]

/-- Following a policy asks what its clauses ask, once its name counts as expanded. -/
theorem queries_follow {raw : String} {statement : Statement} {records : List PolicyRecord}
    (h : Yields (follow resolver options expand site raw statement) visited records visited') :
    ((follow resolver options expand site raw statement).run visited).queries =
        ((Findings.join <$> statement.clauses.mapM (ofClause resolver options expand site)).run
          (Name.key site.source :: visited)).queries ∧
      ∃ f, Yields (Findings.join <$> statement.clauses.mapM (ofClause resolver options expand site))
        (Name.key site.source :: visited) f visited' := by
  rw [follow_eq_join] at h ⊢
  obtain ⟨⟨⟩, marked, hmark, h⟩ := yields_bind.mp h
  obtain ⟨f, between, hclauses, hpure⟩ := yields_bind.mp h
  obtain ⟨-, rfl⟩ := yields_pure.mp hpure
  obtain rfl := yields_modify.mp hmark
  refine ⟨?_, f, hclauses⟩
  rw [queries_bind hmark, ← map_eq_pure_bind, queries_map]
  rfl

theorem queries_followText_of_ok {raw : String} {statement : Statement}
    (hraw : parse raw = .ok statement)
    (h : Yields (followText resolver options expand site raw) visited f visited') :
    ((followText resolver options expand site raw).run visited).queries =
        ((Findings.join <$> statement.clauses.mapM (ofClause resolver options expand site)).run
          (Name.key site.source :: visited)).queries ∧
      ∃ g, Yields (Findings.join <$> statement.clauses.mapM (ofClause resolver options expand site))
        (Name.key site.source :: visited) g visited' := by
  have hfollow : followText resolver options expand site raw = do
      return { nested := ← follow resolver options expand site raw statement } := by
    rw [followText, hraw]
  rw [hfollow] at h ⊢
  obtain ⟨records, between, hrecords, hpure⟩ := yields_bind.mp h
  obtain ⟨-, rfl⟩ := yields_pure.mp hpure
  rw [← map_eq_pure_bind, queries_map]
  exact queries_follow hrecords

/-- The log of a walk along a course is that of the inquiries of the course. -/
theorem Course.exists_inquiries
    (h : Course resolver options levels task visited outcomes visits visited') :
    ∀ {f : Findings} {after : List String},
      Yields (task.walk resolver options levels) visited f after → after = visited' ∧
        ∃ inquiries, ((task.walk resolver options levels).run visited).queries =
            inquiries.flatMap (·.queries) ∧
          Conducted resolver options task outcomes visits inquiries := by
  induction h with
  | @cycle levels site trail index target visited hvisited =>
    intro f after h
    have hafter : after = visited := by
      cases levels <;> rw [Task.walk, Expansion.expand] at h <;>
        rcases yields_unlessExpanded.mp h with ⟨-, -, hafter⟩ | ⟨hnew, -⟩ <;>
        first | exact hafter | exact absurd hvisited hnew
    exact ⟨hafter, [⟨trail, index, []⟩], queries_expand_of_mem hvisited levels,
      conducted_name site trail index target .cycle⟩
  | @tooDeep site trail index target visited hnew =>
    intro f after h
    rw [Task.walk, Expansion.expand] at h ⊢
    rcases yields_unlessExpanded.mp h with ⟨hmem, -⟩ | ⟨-, h⟩
    · exact absurd hmem hnew
    · refine ⟨(yields_pure.mp h).2, [⟨trail, index, []⟩], ?_,
        conducted_name site trail index target .tooDeep⟩
      rw [run_unlessExpanded, if_neg hnew]
      rfl
  | @failed levels site trail index target visited failure hnew hfailure hpolicy =>
    intro f after h
    refine ⟨yields_expand_succ trail index hnew hfailure h,
      [⟨trail, index, [⟨target, .txt⟩]⟩], ?_,
      conducted_name site trail index target (.failed failure)⟩
    rw [Task.walk, queries_expand_succ trail index hnew, hfailure]
    rfl
  | @missing levels site trail index target visited hnew hmissing =>
    intro f after h
    refine ⟨yields_expand_succ trail index hnew hmissing h,
      [⟨trail, index, [⟨target, .txt⟩]⟩], ?_, conducted_name site trail index target .missing⟩
    rw [Task.walk, queries_expand_succ trail index hnew, hmissing]
    rfl
  | @answered levels site trail index target visited visited' raws visits hnew hraws hne htexts
      ih =>
    intro f after h
    have hyields := yields_expand_succ trail index hnew hraws h
    cases raws with
    | nil => exact absurd rfl hne
    | cons raw raws =>
      obtain ⟨g, hg⟩ := hyields
      obtain ⟨rfl, inquiries, hqueries, hconducted⟩ := ih hg
      refine ⟨rfl, ⟨trail, index, [⟨target, .txt⟩]⟩ :: inquiries, ?_, hconducted.answered htexts⟩
      rw [Task.walk, queries_expand_succ trail index hnew, hraws]
      exact congrArg _ hqueries
  | noText =>
    intro f after h
    exact ⟨(yields_pure.mp h).2, [], rfl, .refl _, .nil⟩
  | @malformed levels site trail index text raw raws reason visited visited' visits hraw _ ih =>
    intro f after h
    obtain ⟨first, between, rest, hfirst, hyields⟩ := yields_join_mapM_cons h
    have hlog := queries_join_mapM_cons raws hfirst
    rw [followText_of_error hraw] at hfirst hlog
    obtain ⟨-, rfl⟩ := yields_pure.mp hfirst
    obtain ⟨rfl, inquiries, hqueries, hperm, hordered⟩ := ih hyields
    exact ⟨rfl, inquiries, hlog.trans hqueries, hperm, hordered⟩
  | @followed levels site trail index text raw raws statement visited between visited' outcomes
      below visits hraw hclauses hrest ihclauses ihrest =>
    intro f after h
    obtain ⟨first, marked, rest, hfirst, hyields⟩ := yields_join_mapM_cons h
    have hlog := queries_join_mapM_cons raws hfirst
    obtain ⟨hfollow, g, hg⟩ := queries_followText_of_ok hraw hfirst
    obtain ⟨rfl, own, hown, hconducted⟩ := ihclauses hg
    obtain ⟨rfl, inquiries, hqueries, hconducted'⟩ := ihrest hyields
    refine ⟨rfl, own ++ inquiries, ?_, hconducted.followed hraw hclauses hrest hconducted'⟩
    rw [List.flatMap_append, ← hown, ← hqueries]
    exact hlog.trans (congrArg (· ++ _) hfollow)
  | noClause =>
    intro f after h
    exact ⟨(yields_pure.mp h).2, [], rfl, .refl _, .nil⟩
  | @plain levels site trail index clause row visited visited' outcomes visits hplain hrest ih =>
    intro f after h
    obtain ⟨first, between, rest, hfirst, hyields⟩ := yields_join_mapM_cons h
    have hlog := queries_join_mapM_cons row hfirst
    rw [queries_ofClause_of_plain hplain hfirst] at hlog
    obtain ⟨-, rfl⟩ := hfirst.eq_own hplain
    obtain ⟨rfl, inquiries, hqueries, hconducted⟩ := ih hyields
    refine ⟨rfl, _, ?_, hconducted.plain hrest⟩
    rw [List.flatMap_cons, ← hqueries]
    exact hlog
  | @leads levels site trail index clause row target visited between visited' outcome outcomes below
      visits hlead hname hrest ihname ihrest =>
    intro f after h
    obtain ⟨first, reached, rest, hfirst, hyields⟩ := yields_join_mapM_cons h
    have hlog := queries_join_mapM_cons row hfirst
    rw [queries_ofClause_of_leads hlead] at hlog
    obtain ⟨g, hg, -⟩ := hfirst.eq_own_append hlead
    obtain ⟨rfl, own, hown, hconducted⟩ := ihname hg
    obtain ⟨rfl, inquiries, hqueries, hconducted'⟩ := ihrest hyields
    refine ⟨rfl, own ++ inquiries, ?_, hconducted.leads hlead hname hrest hconducted'⟩
    rw [List.flatMap_append, ← hown, ← hqueries]
    exact hlog

end

end Expansion

end SenderPolicy
