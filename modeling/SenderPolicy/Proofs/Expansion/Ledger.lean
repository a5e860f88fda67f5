import SenderPolicy.Proofs.Expansion.Accounting
import SenderPolicy.Proofs.Expansion.Entries
import SenderPolicy.Proofs.Expansion.Inquiries
import SenderPolicy.Proofs.Expansion.Refusals
import SenderPolicy.Proofs.Policy.Names

/-!
# The questions of a resolution, accounted for

A resolution asks nothing on the side: each question in its log is asked for one clause of one
record.

* `Paired`: a question about IPv6 addresses stands directly behind the one about the IPv4 addresses
  of the same host, and is left out only where that one fails.
* `Term.Calls`: a question is about a name that a clause gives, about the name that published the
  record where the clause gives none, or about an exchange that an answer names.
* `Balanced`: the questions of each type are as many as the entries that call for them.  A name that
  is not looked up, since it is expanded already or is too deep, is made up for by an issue.
* `Attributed`: the log is cut into the inquiries of the clauses, and the clauses take turns.
* `ledger_of_outcome_eq_ok`: all of this holds of every result of a text at hand.

Balances are made for one clause and added up, along the clauses of a record and along the records.
The order of the log does not matter to them, so the inquiries may be taken record by record.
-/

namespace SenderPolicy

open Statement

/-! ## Pairs of questions -/

/-- A question about the IPv6 addresses of a host stands directly behind the one about its IPv4
addresses, and is missing only where that one fails. -/
inductive Paired (resolver : Resolver) : List Query → Prop where
  | nil : Paired resolver []
  | other {query : Query} {log : List Query} (ha : query.type ≠ .a) (haaaa : query.type ≠ .aaaa)
      (hrest : Paired resolver log) : Paired resolver (query :: log)
  | failed {name : String} {failure : LookupError} {log : List Query}
      (hfailure : resolver name .a = .error failure) (hrest : Paired resolver log) :
      Paired resolver (⟨name, .a⟩ :: log)
  | answered {name : String} {answers : List Answer} {log : List Query}
      (hanswers : resolver name .a = .ok answers) (hrest : Paired resolver log) :
      Paired resolver (⟨name, .a⟩ :: ⟨name, .aaaa⟩ :: log)

namespace Paired

variable {resolver : Resolver} {log log' : List Query}

theorem append (h : Paired resolver log) (h' : Paired resolver log') :
    Paired resolver (log ++ log') := by
  induction h with
  | nil => exact h'
  | other ha haaaa _ ih => exact .other ha haaaa ih
  | failed hfailure _ ih => exact .failed hfailure ih
  | answered hanswers _ ih => exact .answered hanswers ih

theorem flatMap {α : Type} {log : α → List Query} {as : List α}
    (h : ∀ a ∈ as, Paired resolver (log a)) : Paired resolver (as.flatMap log) := by
  induction as with
  | nil => exact .nil
  | cons a as ih =>
    rw [List.flatMap_cons]
    exact (h a (List.mem_cons_self ..)).append (ih fun b hb => h b (List.mem_cons_of_mem _ hb))

theorem askedOfHost (host : String) : Paired resolver (resolver.askedOfHost host) := by
  rw [Resolver.askedOfHost]
  cases hanswers : resolver host .a with
  | ok answers => exact .answered hanswers .nil
  | error failure => exact .failed hanswers .nil

theorem asked (options : ResolveOptions) (source : String) (clause : Clause) :
    Paired resolver (clause.asked resolver options source) := by
  obtain ⟨token, term⟩ := clause
  cases term with
  | host kind target mask value =>
    by_cases hmask : mask = .malformed
    · subst hmask
      cases kind <;> exact .nil
    · cases kind with
      | a =>
        rw [Clause.asked_a hmask]
        exact askedOfHost _
      | mx =>
        rw [Clause.asked_mx hmask]
        exact .other (by simp) (by simp) (flatMap fun host _ => askedOfHost host)
  | explanation target =>
    change Paired resolver (if options.fetchExplanation then [⟨target, .txt⟩] else [])
    split
    · exact .other (by simp) (by simp) .nil
    · exact .nil
  | _ => exact .nil

/-- There are as many questions about IPv6 addresses as answered ones about IPv4 addresses. -/
theorem countP_eq (h : Paired resolver log) :
    log.countP (·.type = .aaaa) =
      log.countP fun query => query.type = .a ∧ (resolver query.name .a).isOk := by
  induction h with
  | nil => rfl
  | other ha haaaa _ ih => simp [ha, haaaa, ih]
  | failed hfailure _ ih => simp [ih, hfailure, Except.isOk, Except.toBool]
  | answered hanswers _ ih => simp [ih, hanswers, Except.isOk, Except.toBool]

end Paired

/-! ## Calls -/

/-- The question is one that a term of a text published under `source` can call for. -/
inductive Term.Calls (resolver : Resolver) (source : String) : Term → Query → Prop where
  /-- The texts of a policy or of an explanation, under the name as it is given. -/
  | texts {term : Term} {name : String} (hname : term.name? = some name)
      (hhost : term.isHost = false) : Calls resolver source term ⟨name, .txt⟩
  /-- The addresses of a host, which is the source itself unless a name is given. -/
  | host {target : Option String} {mask : HostMask} {value : String} {query : Query}
      (hquery : query ∈ resolver.askedOfHost (target.getD source)) :
      Calls resolver source (.host .a target mask value) query
  /-- The exchanges of a domain, which is the source itself unless a name is given. -/
  | exchanges {target : Option String} {mask : HostMask} {value : String} :
      Calls resolver source (.host .mx target mask value) ⟨target.getD source, .mx⟩
  /-- The addresses of an exchange, under the name that the answer gives. -/
  | exchange {target : Option String} {mask : HostMask} {value host : String} {query : Query}
      (hhost : host ∈ resolver.exchangesFound (target.getD source))
      (hquery : query ∈ resolver.askedOfHost host) :
      Calls resolver source (.host .mx target mask value) query

/-- A clause that leads to no name asks what it calls for. -/
theorem Clause.calls_of_mem_asked {resolver : Resolver} {options : ResolveOptions} {source : String}
    {clause : Clause} {query : Query} (h : query ∈ clause.asked resolver options source) :
    clause.term.Calls resolver source query := by
  obtain ⟨token, term⟩ := clause
  cases term with
  | host kind target mask value =>
    by_cases hmask : mask = .malformed
    · subst hmask
      cases kind <;> cases h
    · cases kind with
      | a =>
        rw [Clause.asked_a hmask] at h
        exact .host h
      | mx =>
        rw [Clause.asked_mx hmask] at h
        rcases List.mem_cons.mp h with rfl | h
        · exact .exchanges
        · obtain ⟨host, hhost, hquery⟩ := List.mem_flatMap.mp h
          exact .exchange hhost hquery
  | explanation target =>
    change query ∈ (if options.fetchExplanation then [⟨target, .txt⟩] else [] : List Query) at h
    split at h
    · rw [List.mem_singleton.mp h]
      exact .texts rfl rfl
    · cases h
  | _ => cases h

/-! ## Balances -/

/-- Whether the issue stands for a name that has not been looked up. -/
def Issue.isUnasked : Issue → Bool
  | .cycleDetected _ => true
  | .depthExceeded _ _ => true
  | _ => false

/-- Whether an entry with the tag calls for no question. -/
def EntryTag.isIdle : EntryTag → Bool
  | .inclusion | .redirection | .a | .mx | .explanation => false
  | _ => true

/-- The number of mail exchanges that the questions of a log bring. -/
def exchangeCount (resolver : Resolver) (log : List Query) : Nat :=
  ((log.filter (·.type = .mx)).map fun query => (resolver.exchangesFound query.name).length).sum

/-- The questions are those that the entries call for, where the issues stand for names that have
not been looked up. -/
structure Balanced (resolver : Resolver) (options : ResolveOptions) (log : List Query)
    (entries : List PolicyEntry) (issues : List Issue) : Prop where
  /-- One for each name that a policy leads to, and one for each explanation that is fetched. -/
  txt : log.countP (·.type = .txt) + issues.countP Issue.isUnasked =
    entries.countP (fun entry => entry.tag = .inclusion ∨ entry.tag = .redirection) +
      if options.fetchExplanation then entries.countP (·.tag = .explanation) else 0
  /-- One for each domain whose exchanges are named. -/
  mx : log.countP (·.type = .mx) = entries.countP (·.tag = .mx)
  /-- One for each host that is named, and one for each exchange. -/
  a : log.countP (·.type = .a) = entries.countP (·.tag = .a) + exchangeCount resolver log

namespace Balanced

variable {resolver : Resolver} {options : ResolveOptions} {log log' : List Query}
  {entries entries' : List PolicyEntry} {issues issues' : List Issue}

theorem nil : Balanced resolver options [] [] [] := by
  refine ⟨?_, rfl, rfl⟩
  split <;> rfl

theorem append (h : Balanced resolver options log entries issues)
    (h' : Balanced resolver options log' entries' issues') :
    Balanced resolver options (log ++ log') (entries ++ entries') (issues ++ issues') := by
  obtain ⟨htxt, hmx, ha⟩ := h
  obtain ⟨htxt', hmx', ha'⟩ := h'
  refine ⟨?_, ?_, ?_⟩
  · cases hfetch : options.fetchExplanation <;>
      simp only [hfetch, Bool.false_eq_true, if_true, if_false, List.countP_append]
        at htxt htxt' ⊢ <;>
      omega
  · simp only [List.countP_append]
    omega
  · simp only [exchangeCount, List.filter_append, List.map_append, List.sum_append,
      List.countP_append] at ha ha' ⊢
    omega

/-- The order of the questions does not matter. -/
theorem of_perm (h : Balanced resolver options log entries issues) (hperm : log.Perm log') :
    Balanced resolver options log' entries issues := by
  obtain ⟨htxt, hmx, ha⟩ := h
  have hexchanges : exchangeCount resolver log' = exchangeCount resolver log :=
    ((hperm.filter _).map _).sum_nat.symm
  refine ⟨?_, ?_, ?_⟩
  · rw [← hperm.countP_eq, htxt]
  · rw [← hperm.countP_eq, hmx]
  · rw [← hperm.countP_eq, ha, hexchanges]

theorem flatMap {α : Type} {as : List α} {log : α → List Query} {entries : α → List PolicyEntry}
    {issues : α → List Issue}
    (h : ∀ a ∈ as, Balanced resolver options (log a) (entries a) (issues a)) :
    Balanced resolver options (as.flatMap log) (as.flatMap entries) (as.flatMap issues) := by
  induction as with
  | nil => exact nil
  | cons a as ih =>
    simp only [List.flatMap_cons]
    exact (h a (List.mem_cons_self ..)).append (ih fun b hb => h b (List.mem_cons_of_mem _ hb))

end Balanced

/-! ## The balance of a clause -/

section

variable {resolver : Resolver} {options : ResolveOptions} {domain source : String}

/-- The questions about a host are about addresses. -/
theorem type_of_mem_askedOfHost {host : String} {query : Query}
    (h : query ∈ resolver.askedOfHost host) : query.type = .a ∨ query.type = .aaaa := by
  rcases List.mem_cons.mp h with rfl | h
  · exact Or.inl rfl
  · split at h
    · exact Or.inr (congrArg Query.type (List.mem_singleton.mp h))
    · cases h

theorem countP_askedOfHost (host : String) :
    (resolver.askedOfHost host).countP (·.type = .a) = 1 := by
  rw [Resolver.askedOfHost]
  split <;> rfl

/-- About hosts, only addresses are asked for, and IPv4 addresses once for each of them. -/
theorem countP_hosts (resolver : Resolver) (hosts : List String) :
    (hosts.flatMap resolver.askedOfHost).countP (·.type = .txt) = 0 ∧
      (hosts.flatMap resolver.askedOfHost).countP (·.type = .mx) = 0 ∧
      (hosts.flatMap resolver.askedOfHost).countP (·.type = .a) = hosts.length := by
  have hother : ∀ type : RecordType, type ≠ .a → type ≠ .aaaa →
      (hosts.flatMap resolver.askedOfHost).countP (·.type = type) = 0 := by
    intro type ha haaaa
    refine List.countP_eq_zero.mpr fun query hquery => ?_
    obtain ⟨host, -, hquery⟩ := List.mem_flatMap.mp hquery
    rcases type_of_mem_askedOfHost hquery with htype | htype <;> rw [htype]
    · simpa using ha.symm
    · simpa using haaaa.symm
  refine ⟨hother .txt (by decide) (by decide), hother .mx (by decide) (by decide), ?_⟩
  rw [List.countP_flatMap]
  simp only [Function.comp_def, countP_askedOfHost, List.map_const', List.sum_replicate_nat,
    Nat.mul_one]

theorem exchangeCount_of_countP_eq_zero (resolver : Resolver) {log : List Query}
    (h : log.countP (·.type = .mx) = 0) : exchangeCount resolver log = 0 := by
  have hfilter : log.filter (·.type = .mx) = [] := by
    rw [List.filter_eq_nil_iff]
    exact List.countP_eq_zero.mp h
  rw [exchangeCount, hfilter]
  rfl

/-- A host that is named calls for its addresses. -/
theorem balanced_a (host value : String) :
    Balanced resolver options (resolver.askedOfHost host) [⟨domain, source, .a, value⟩] [] := by
  obtain ⟨htxt, hmx, ha⟩ := countP_hosts resolver [host]
  rw [List.flatMap_singleton] at htxt hmx ha
  refine ⟨?_, hmx, ?_⟩
  · rw [htxt]
    split <;> rfl
  · rw [ha, exchangeCount_of_countP_eq_zero resolver hmx]
    rfl

/-- A domain whose exchanges are named calls for them and for their addresses. -/
theorem balanced_mx (name value : String) :
    Balanced resolver options
      (⟨name, .mx⟩ :: (resolver.exchangesFound name).flatMap resolver.askedOfHost)
      [⟨domain, source, .mx, value⟩] [] := by
  obtain ⟨htxt, hmx, ha⟩ := countP_hosts resolver (resolver.exchangesFound name)
  refine ⟨?_, ?_, ?_⟩
  · rw [List.countP_cons_of_neg (by simp), htxt]
    split <;> rfl
  · rw [List.countP_cons_of_pos (by simp), hmx]
    rfl
  · have hexchanges := exchangeCount_of_countP_eq_zero resolver hmx
    rw [exchangeCount] at hexchanges
    rw [List.countP_cons_of_neg (by simp), ha, exchangeCount, List.filter_cons_of_pos (by simp),
      List.map_cons, List.sum_cons, hexchanges]
    simp

/-- An explanation calls for its text if explanations are fetched. -/
theorem balanced_explanation (target : String) :
    Balanced resolver options (if options.fetchExplanation then [⟨target, .txt⟩] else [])
      [⟨domain, source, .explanation, target⟩] [] := by
  split
  · next hfetch => exact ⟨by rw [if_pos hfetch]; rfl, rfl, rfl⟩
  · next hfetch => exact ⟨by rw [if_neg hfetch]; rfl, rfl, rfl⟩

/-- An entry with any other tag calls for nothing. -/
theorem balanced_idle {tag : EntryTag} {value : String} (h : tag.isIdle = true) :
    Balanced resolver options [] [⟨domain, source, tag, value⟩] [] := by
  cases tag
  case inclusion | redirection | a | mx | explanation => cases h
  all_goals exact ⟨by split <;> rfl, rfl, rfl⟩

theorem balanced_misfits {entries : List PolicyEntry}
    (h : ∀ entry ∈ entries, entry.tag = .invalidNetwork) :
    Balanced resolver options [] entries [] := by
  induction entries with
  | nil => exact .nil
  | cons entry entries ih =>
    obtain ⟨hentry, hentries⟩ := List.forall_mem_cons.mp h
    obtain ⟨domain, source, tag, value⟩ := entry
    obtain rfl : tag = .invalidNetwork := hentry
    exact (balanced_idle rfl).append (ih hentries)

/-- Issues of failed lookups make up for nothing. -/
theorem balanced_issues {issues : List Issue}
    (h : ∀ issue ∈ issues, issue.isUnasked = false) :
    Balanced resolver options [] [] issues := by
  have hcount : issues.countP Issue.isUnasked = 0 :=
    List.countP_eq_zero.mpr fun issue hissue => by rw [h issue hissue]; exact Bool.false_ne_true
  refine ⟨?_, rfl, rfl⟩
  rw [hcount]
  split <;> rfl

end

namespace Expansion

section

variable {resolver : Resolver} {options : ResolveOptions} {site : Site} {clause : Clause}

/-- A clause calls by itself for what its own entry calls for. -/
theorem balanced_of_stated {log : List Query}
    (h : Balanced resolver options log
      ((clause.stated? site.domain site.source).map PolicyEntry.settled).toList []) :
    Balanced resolver options log (own resolver options site clause).entries
      (own resolver options site clause).issues := by
  have hmisfits : Balanced resolver options [] (clause.misfits resolver site.domain site.source)
      [] := balanced_misfits fun _ => PolicyEntry.tag_of_mem_misfits
  have hissues : Balanced resolver options [] [] (own resolver options site clause).issues := by
    refine balanced_issues fun issue hissue => ?_
    obtain ⟨token, term⟩ := clause
    have hlookup : LookupIssue resolver options site.source term issue :=
      lookupIssue_of_mem_issues_own hissue
    cases hlookup <;> rfl
  have hall := (h.append hmisfits).append hissues
  rw [List.append_nil, List.append_nil, List.append_nil, List.append_nil] at hall
  rw [entries_own]
  exact hall

/-- The questions of a clause that leads to no name are those that its entries call for. -/
theorem balanced_own (hplain : clause.target? = none) :
    Balanced resolver options (clause.asked resolver options site.source)
      (own resolver options site clause).entries (own resolver options site clause).issues := by
  refine balanced_of_stated ?_
  obtain ⟨token, term⟩ := clause
  cases term with
  | inclusion target => cases hplain
  | redirection target => cases hplain
  | host kind target mask value =>
    by_cases hmask : mask = .malformed
    · subst hmask
      cases kind <;> exact balanced_idle rfl
    · rw [Clause.stated?, Term.stated?_host hmask]
      cases kind with
      | a =>
        rw [Clause.asked_a hmask]
        exact balanced_a _ value
      | mx =>
        rw [Clause.asked_mx hmask]
        exact balanced_mx _ value
  | explanation target => exact balanced_explanation target
  | literal family value =>
    have hidle : ((Literal.read family value).tag family).isIdle = true := by
      cases Literal.read family value <;> cases family <;> rfl
    cases family <;> exact balanced_idle hidle
  | existsTest value => exact balanced_idle rfl
  | pointer value => exact balanced_idle rfl
  | version | all | unknown => exact .nil

/-- A name that a clause leads to is looked up, or an issue says that it is not. -/
theorem balanced_leads {target : String} (hlead : clause.target? = some target)
    (outcome : Outcome) :
    Balanced resolver options (outcome.asked target) (own resolver options site clause).entries
      (outcome.issues target site.depth) := by
  obtain ⟨tag, htag, hown⟩ : ∃ tag, (tag = .inclusion ∨ tag = .redirection) ∧
      (own resolver options site clause).entries = [⟨site.domain, site.source, tag, target⟩] := by
    obtain ⟨token, term⟩ := clause
    cases term with
    | inclusion name =>
      cases hlead
      exact ⟨.inclusion, Or.inl rfl, rfl⟩
    | redirection name =>
      cases hlead
      exact ⟨.redirection, Or.inr rfl, rfl⟩
    | _ => cases hlead
  have hanswered : ∀ issues : List Issue, (∀ issue ∈ issues, issue.isUnasked = false) →
      Balanced resolver options [⟨target, .txt⟩] [⟨site.domain, site.source, tag, target⟩]
        issues := by
    intro issues hissues
    have hasked : Balanced resolver options [⟨target, .txt⟩]
        [⟨site.domain, site.source, tag, target⟩] [] := by
      rcases htag with rfl | rfl <;> exact ⟨by split <;> rfl, rfl, rfl⟩
    have hall := hasked.append (balanced_issues hissues)
    rwa [List.append_nil, List.append_nil] at hall
  rw [hown]
  cases outcome with
  | cycle | tooDeep => rcases htag with rfl | rfl <;> exact ⟨by split <;> rfl, rfl, rfl⟩
  | failed | missing => exact hanswered _ (List.forall_mem_singleton.mpr rfl)
  | answered texts =>
    refine hanswered _ fun issue hissue => ?_
    obtain ⟨raw, -, hmalformed⟩ := List.mem_filterMap.mp hissue
    rw [malformedIssue?] at hmalformed
    split at hmalformed
    · cases hmalformed
    · cases hmalformed
      rfl

/-- The questions of a row of clauses are those that its entries call for. -/
theorem balanced_row (site : Site) {trail : List Step} {row : List Clause} :
    ∀ {index : Nat} {outcomes : List (Option Outcome)},
      (∀ (i : Nat) (clause : Clause), row[i]? = some clause → ∃ outcome : Option Outcome,
        outcomes[i]? = some outcome ∧ outcome.isSome = clause.target?.isSome) →
      Balanced resolver options
        ((rowInquiries resolver options site.source trail index row outcomes).flatMap (·.queries))
        (row.flatMap fun clause => (own resolver options site clause).entries)
        (List.zipWith (clauseIssues resolver options site) row outcomes).flatten := by
  induction row with
  | nil =>
    intro index outcomes _
    exact .nil
  | cons clause row ih =>
    intro index outcomes hrow
    obtain ⟨outcome, houtcome, hleads⟩ := hrow 0 clause rfl
    cases outcomes with
    | nil => cases houtcome
    | cons first outcomes =>
      obtain rfl := Option.some.inj houtcome
      rw [rowInquiries, List.zipWith_cons_cons, List.flatMap_cons, List.flatMap_cons,
        List.flatten_cons]
      refine Balanced.append ?_ (ih fun i clause hclause => hrow (i + 1) clause hclause)
      cases htarget : clause.target? with
      | none =>
        rw [htarget] at hleads
        obtain rfl := Option.isNone_iff_eq_none.mp (Option.isSome_eq_false_iff.mp hleads)
        exact balanced_own htarget
      | some target =>
        rw [htarget] at hleads
        obtain ⟨outcome, rfl⟩ := Option.isSome_iff_exists.mp hleads
        rw [asked, clauseIssues, htarget]
        exact balanced_leads htarget outcome

/-- The questions of a visit are those that the entries of its record call for. -/
theorem Resolved.balanced {visits : List Visit} (h : Resolved resolver options visits)
    {visit : Visit} (hvisit : visit ∈ visits) :
    Balanced resolver options ((visit.inquiries resolver options).flatMap (·.queries))
      visit.record.entries visit.record.issues := by
  obtain ⟨statement, hreads, hrow⟩ := h.became visit hvisit
  have hentries : visit.record.entries =
      statement.clauses.flatMap fun clause => (own resolver options visit.site clause).entries :=
    (congrArg PolicyRecord.entries hreads.record_eq).trans (entries_recordOf ..)
  have hissues : visit.record.issues =
      (List.zipWith (clauseIssues resolver options visit.site) statement.clauses
        visit.outcomes).flatten := congrArg PolicyRecord.issues hreads.record_eq
  rw [Visit.inquiries, ← clauses_of_parse_eq_ok hreads.parse_eq, hentries, hissues]
  refine balanced_row visit.site fun i clause hclause => ?_
  obtain ⟨outcome, houtcome, hbecame⟩ := hrow i clause hclause
  refine ⟨outcome, houtcome, ?_⟩
  cases outcome with
  | none => exact congrArg Option.isSome (Eq.symm hbecame)
  | some outcome =>
    obtain ⟨target, htarget, -⟩ := hbecame
    rw [htarget]
    rfl

/-- What a clause asks it calls for. -/
theorem calls_of_mem_asked {source : String} {clause : Clause} {outcome : Option Outcome}
    {query : Query} (h : query ∈ asked resolver options source clause outcome) :
    clause.term.Calls resolver source query := by
  cases outcome with
  | none => exact Clause.calls_of_mem_asked h
  | some outcome =>
    rw [asked] at h
    cases htarget : clause.target? with
    | none =>
      rw [htarget] at h
      cases h
    | some target =>
      obtain ⟨hname, hhost⟩ := Term.name?_of_target? htarget
      rw [htarget] at h
      cases outcome with
      | cycle | tooDeep => cases h
      | failed | missing | answered =>
        rw [List.mem_singleton.mp h]
        exact .texts hname hhost

/-- What a clause asks comes in pairs. -/
theorem paired_asked (source : String) (clause : Clause) (outcome : Option Outcome) :
    Paired resolver (asked resolver options source clause outcome) := by
  cases outcome with
  | none => exact .asked options source clause
  | some outcome =>
    rw [asked]
    cases clause.target? with
    | none => exact .nil
    | some target =>
      cases outcome with
      | cycle | tooDeep => exact .nil
      | failed | missing | answered => exact .other (by simp) (by simp) .nil

end

/-! ## Causes -/

/-- The inquiry is made for the clause with this number of the record on the trail, or for a record
that the clause leads to. -/
def Inquiry.Under (inquiry : Inquiry) (trail : List Step) (clause : Nat) : Prop :=
  ∃ text rest, inquiry.place = trail ++ ⟨clause, text⟩ :: rest

/-- The log is that of the inquiries for the clauses of the visits, and the clauses of a record take
turns. -/
structure Attributed (resolver : Resolver) (options : ResolveOptions) (log : List Query)
    (visits : List Visit) (inquiries : List Inquiry) : Prop where
  /-- The visits are those of a resolution. -/
  resolved : Resolved resolver options visits
  /-- Nothing else is asked. -/
  log_eq : log = inquiries.flatMap (·.queries)
  /-- The inquiries are those of the visits, each of them once. -/
  perm : inquiries.Perm (visits.flatMap (·.inquiries resolver options))
  /-- Each clause in front of the first `all` has one. -/
  length_eq : ∀ visit ∈ visits,
    (visit.inquiries resolver options).length = visit.record.clauses.length
  /-- A clause is inquired about in front of what it leads to. -/
  ordered : inquiries.Pairwise fun x y => x.place < y.place
  /-- A clause is done with, and so are the records that it leads to, before the next one. -/
  inTurn : inquiries.Pairwise fun x y =>
    ∀ trail i j, x.Under trail i → y.Under trail j → i ≤ j

variable {resolver : Resolver} {options : ResolveOptions}

theorem Inquiry.Under.le {x y : Inquiry} {trail : List Step} {i j : Nat} (hx : x.Under trail i)
    (hy : y.Under trail j) (h : x.place < y.place) : i ≤ j := by
  obtain ⟨s, rest, hx⟩ := hx
  obtain ⟨t, rest', hy⟩ := hy
  rw [hx, hy] at h
  rcases List.cons_lt_cons_iff.mp (lt_of_append_lt_append h) with (hlt | ⟨heq, -⟩) | ⟨heq, -⟩
  · exact Nat.le_of_lt hlt
  · exact Nat.le_of_eq heq
  · exact Nat.le_of_eq (congrArg Step.clause heq)

/-- The log of a resolution is attributed to the visits behind its records. -/
theorem exists_attributed_of_root {domain raw : String} {statement : Statement}
    {records : List PolicyRecord} (hraw : parse raw = .ok statement)
    (h : (root resolver options domain raw statement).outcome = .ok records) :
    ∃ visits inquiries, visits.map (·.record) = records ∧
      Attributed resolver options (root resolver options domain raw statement).queries visits
        inquiries := by
  obtain ⟨outcomes, below, visited', hcourse, hrecords⟩ := exists_course_of_root h
  obtain ⟨after, hfollow⟩ := exists_yields_of_root h
  have hlog : (root resolver options domain raw statement).queries =
      ((follow resolver options (expand resolver options options.maxDepth) ⟨domain, domain, 0⟩ raw
        statement).run []).queries := Traced.queries_map ..
  obtain ⟨hqueries, f, hf⟩ := queries_follow hfollow
  obtain ⟨-, inquiries, hinquiries, hconducted⟩ := hcourse.exists_inquiries hf
  have hresolved := Resolved.root hraw hcourse
  refine ⟨_, inquiries, ?_, hresolved, (hlog.trans hqueries).trans hinquiries, ?_,
    fun visit hvisit => ?_, hconducted.ordered,
    hconducted.ordered.imp fun h trail i j hx hy => hx.le hy h⟩
  · exact hrecords.symm
  · rw [List.flatMap_cons, inquiries_recordOf hraw]
    exact hconducted.perm
  · obtain ⟨statement, hreads⟩ := hresolved.exists_reads visit hvisit
    rw [PolicyRecord.clauses, Visit.inquiries, ← clauses_of_parse_eq_ok hreads.parse_eq]
    exact length_rowInquiries hreads.length_eq

/-- An attributed log holds what the clauses of its visits call for. -/
theorem Attributed.exists_calls {log : List Query} {visits : List Visit} {inquiries : List Inquiry}
    (h : Attributed resolver options log visits inquiries) {query : Query} (hquery : query ∈ log) :
    ∃ visit ∈ visits, ∃ clause ∈ visit.record.clauses,
      clause.term.Calls resolver visit.record.source query := by
  rw [h.log_eq] at hquery
  obtain ⟨inquiry, hinquiry, hquery⟩ := List.mem_flatMap.mp hquery
  obtain ⟨visit, hvisit, hmem⟩ := List.mem_flatMap.mp (h.perm.mem_iff.mp hinquiry)
  obtain ⟨i, clause, outcome, hclause, -, rfl⟩ := exists_of_mem_rowInquiries hmem
  exact ⟨visit, hvisit, clause, List.mem_of_getElem? hclause, calls_of_mem_asked hquery⟩

/-- An attributed log is made of pairs. -/
theorem Attributed.paired {log : List Query} {visits : List Visit} {inquiries : List Inquiry}
    (h : Attributed resolver options log visits inquiries) : Paired resolver log := by
  rw [h.log_eq]
  refine .flatMap fun inquiry hinquiry => ?_
  obtain ⟨visit, -, hmem⟩ := List.mem_flatMap.mp (h.perm.mem_iff.mp hinquiry)
  obtain ⟨i, clause, outcome, -, -, rfl⟩ := exists_of_mem_rowInquiries hmem
  exact paired_asked visit.record.source clause outcome

/-- An attributed log balances the records of its visits. -/
theorem Attributed.balanced {log : List Query} {visits : List Visit} {inquiries : List Inquiry}
    (h : Attributed resolver options log visits inquiries) :
    Balanced resolver options log (visits.flatMap (·.record.entries))
      (visits.flatMap (·.record.issues)) := by
  have hvisits : Balanced resolver options
      (visits.flatMap fun visit => (visit.inquiries resolver options).flatMap (·.queries))
      (visits.flatMap (·.record.entries)) (visits.flatMap (·.record.issues)) :=
    .flatMap fun visit hvisit => h.resolved.balanced hvisit
  rw [← List.flatMap_assoc] at hvisits
  rw [h.log_eq]
  exact hvisits.of_perm (h.perm.symm.flatMap_right _)

/-! ## The ledger of a result -/

/-- The log is accounted for by the records. -/
structure Ledger (resolver : Resolver) (options : ResolveOptions) (records : List PolicyRecord)
    (log : List Query) : Prop where
  /-- The questions are as many as the entries call for. -/
  balanced : Balanced resolver options log (records.flatMap (·.entries))
    (records.flatMap (·.issues))
  /-- IPv6 addresses are asked for directly behind IPv4 addresses, unless these have failed. -/
  paired : Paired resolver log
  /-- So there are as many questions about IPv6 addresses as answered ones about IPv4 addresses. -/
  aaaa : log.countP (·.type = .aaaa) =
    log.countP fun query => query.type = .a ∧ (resolver query.name .a).isOk
  /-- Each question is about a name that a clause gives, about the name that published the record,
  or about an exchange. -/
  calls : ∀ query ∈ log, ∃ record ∈ records, ∃ clause ∈ record.clauses,
    clause.term.Calls resolver record.source query
  /-- A name that a clause gives is spelt out in its token. -/
  spelt : ∀ record ∈ records, ∀ clause ∈ record.clauses, ∀ name, clause.term.name? = some name →
    clause.term.Spelt clause.token.toList name
  /-- Each question is asked for one clause, and the clauses take turns. -/
  attributed : ∃ visits inquiries, visits.map (·.record) = records ∧
    Attributed resolver options log visits inquiries

/-- Every result of a text at hand accounts for its log. -/
theorem ledger_of_outcome_eq_ok {domain raw : String} {records : List PolicyRecord}
    (h : (parseRecord resolver options domain raw).outcome = .ok records) :
    Ledger resolver options records (parseRecord resolver options domain raw).queries := by
  obtain ⟨ascii, statement, hdomain, hraw, hroot⟩ := outcome_parseRecord_eq_ok.mp h
  have hlog : (parseRecord resolver options domain raw).queries =
      (root resolver options ascii raw statement).queries := by
    rw [parseRecord_of_ok hdomain, resolveText, hraw]
    rfl
  obtain ⟨visits, inquiries, rfl, hattributed⟩ := exists_attributed_of_root hraw hroot
  rw [hlog]
  refine ⟨?_, hattributed.paired, hattributed.paired.countP_eq, fun query hquery => ?_, ?_,
    visits, inquiries, rfl, hattributed⟩
  · rw [List.flatMap_map, List.flatMap_map]
    exact hattributed.balanced
  · obtain ⟨visit, hvisit, hcalls⟩ := hattributed.exists_calls hquery
    exact ⟨visit.record, List.mem_map_of_mem hvisit, hcalls⟩
  · intro record _ clause hclause name hname
    obtain ⟨token, -, rfl⟩ := List.mem_map.mp ((List.takeWhile_sublist _).subset hclause)
    exact Term.spelt_parse hname

/-- An included policy that leads back and has a host without addresses, an exchange that cannot be
looked up beside one that can, and an explanation that is fetched. -/
theorem ledger_of_zone :
    let resolver := Zone.resolver
      [⟨"m", .mx, .ok [.name "x", .name "y"]⟩,
        ⟨"x", .a, .ok [.address (.ofNat .v4 0xC0000201)]⟩,
        ⟨"y", .a, .error (.unanswered "y" .a "SERVFAIL")⟩,
        ⟨"b", .txt, .ok [.text "v=spf1 redirect=A +A"]⟩,
        ⟨"e", .txt, .ok [.text "No."]⟩]
    let options : ResolveOptions := { fetchExplanation := true }
    let raw := "v=spf1 include:b MX:m exp=e -all"
    let records : List PolicyRecord :=
      [{ domain := "a", source := "a", raw := raw, version := "spf1", depth := 0, action := .fail
         entries := [⟨"a", "a", .inclusion, "b"⟩, ⟨"a", "a", .mx, "m"⟩,
           ⟨"a", "a", .explanation, "e"⟩]
         addresses := [⟨"x MX:m", .ofNat .v4 0xC0000201⟩], networks := []
         explanation := some "No."
         issues := [.lookupFailed "y" "A lookup failed for y: SERVFAIL"] },
       { domain := "a", source := "b", raw := "v=spf1 redirect=A +A", version := "spf1", depth := 1
         action := .neutral, entries := [⟨"a", "b", .redirection, "A"⟩, ⟨"a", "b", .a, ""⟩]
         addresses := [], networks := [], explanation := none, issues := [.cycleDetected "A"] }]
    let log : List Query := [⟨"b", .txt⟩, ⟨"b", .a⟩, ⟨"b", .aaaa⟩, ⟨"m", .mx⟩, ⟨"x", .a⟩,
      ⟨"x", .aaaa⟩, ⟨"y", .a⟩, ⟨"e", .txt⟩]
    (parseRecord resolver options "a" raw).outcome = .ok records ∧
      (parseRecord resolver options "a" raw).queries = log ∧
      Ledger resolver options records log := by
  intro resolver options raw records log
  have houtcome : (parseRecord resolver options "a" raw).outcome = .ok records :=
    outcome_parseRecord_eq_ok.mpr
      ⟨"a", ⟨"spf1", .fail, [⟨"v=spf1", .version "spf1"⟩, ⟨"include:b", .inclusion "b"⟩,
        ⟨"MX:m", .host .mx (some "m") .absent "m"⟩, ⟨"exp=e", .explanation "e"⟩]⟩, rfl,
        by decide +kernel, by decide +kernel⟩
  have hlog : (parseRecord resolver options "a" raw).queries = log := by decide +kernel
  refine ⟨houtcome, hlog, ?_⟩
  rw [← hlog]
  exact ledger_of_outcome_eq_ok houtcome

end Expansion

end SenderPolicy
