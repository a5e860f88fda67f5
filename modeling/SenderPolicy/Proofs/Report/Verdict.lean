import SenderPolicy.CommandLine.Run
import SenderPolicy.Dns.Zone
import SenderPolicy.Proofs.Expansion.Accounting
import SenderPolicy.Proofs.Expansion.Noted
import SenderPolicy.Proofs.Expansion.Validity

/-!
# What a clean report means

A report is not flagged if the domain was skipped, and otherwise only if nothing at all has gone
wrong: `flagged_eq_false_iff_trustworthy`.  The same is said of rows of reports and of the exit
code.

* `Sound` lists what has gone right: the resolution has a result that is not empty, all of its
  questions have answers, every name that a clause leads to is followed (`Visit.Followed`), and the
  other clauses are in order (`Term.InOrder`).
* `Resolved.issues_eq_nil_iff`: a record without issues is one whose names are followed and on which
  no failed lookup is noted.  So the issues and the invalid entries of a record are enough to tell.

That a flag misses nothing depends on all of the result together: a question is asked on behalf of
one record, and it is the issues of all of them that tell whether there is a question without an
answer (`answers_iff_of_resolve`).
-/

namespace SenderPolicy

namespace Expansion

variable {resolver : Resolver} {options : ResolveOptions} {visits : List Visit}

/-! ## Names that are followed -/

/-- Each name that the text of the visit leads to publishes a policy, and each of the policies that
it publishes has exactly one visit of its own, one step further. -/
def Visit.Followed (resolver : Resolver) (visits : List Visit) (visit : Visit) : Prop :=
  ∀ i clause target,
    (Statement.active (Statement.allClauses visit.record.raw))[i]? = some clause →
      clause.target? = some target →
      ∃ texts, (resolver.policyTexts target).outcome = .ok texts ∧ texts ≠ [] ∧
        ∀ k < texts.length,
          ∃! child, child ∈ visits ∧ visit.LedTo resolver ⟨i, k⟩ target texts child

theorem malformedIssue?_eq_none_iff {source raw : String} :
    malformedIssue? source raw = none ↔ Statement.WellFormed raw := by
  rw [malformedIssue?, ← Statement.exists_parse_eq_ok_iff]
  cases Statement.parse raw <;> simp

/-- The one outcome without an issue is an answer in which all texts are well formed. -/
theorem Outcome.issues_eq_nil_iff {target : String} {depth : Nat} {outcome : Outcome} :
    outcome.issues target depth = [] ↔
      ∃ texts, outcome = .answered texts ∧ ∀ raw ∈ texts, Statement.WellFormed raw := by
  cases outcome with
  | answered texts =>
    simp only [Outcome.issues, List.filterMap_eq_nil_iff, malformedIssue?_eq_none_iff,
      Outcome.answered.injEq, exists_eq_left']
  | cycle | tooDeep | missing | failed _ => simp [Outcome.issues]

theorem LookupIssue.isFailure {source : String} {term : Term} {issue : Issue}
    (h : LookupIssue resolver options source term issue) : issue.IsFailure := by
  cases h <;> exact trivial

/-- Where there is no issue, each name is followed. -/
theorem Resolved.followed_of_issues_eq_nil (h : Resolved resolver options visits) {visit : Visit}
    (hvisit : visit ∈ visits) (hissues : visit.record.issues = []) :
    visit.Followed resolver visits := by
  intro i clause target hclause htarget
  obtain ⟨outcome, houtcome, hholds, hnoted⟩ :=
    (h.became visit hvisit).exists_holds hclause htarget
  rw [hissues] at hnoted
  obtain ⟨texts, rfl, hwf⟩ := Outcome.issues_eq_nil_iff.mp (List.eq_nil_iff_forall_not_mem.mpr
    fun issue hissue => List.not_mem_nil (hnoted issue hissue))
  obtain ⟨hne, htexts, hchildren⟩ := hholds
  refine ⟨texts, htexts, hne, fun k hk => ?_⟩
  have hraw : texts[k]? = some texts[k] := List.getElem?_eq_getElem hk
  obtain ⟨child, hchild, hat⟩ := hchildren k texts[k] hraw (hwf _ (List.getElem_mem hk))
  have hled : visit.LedTo resolver ⟨i, k⟩ target texts child :=
    ⟨clause, texts[k], hclause, htarget, houtcome, htexts, hraw, hat⟩
  refine ⟨child, ⟨hchild, hled⟩, fun twin ⟨htwin, hled'⟩ => ?_⟩
  exact h.eq_of_trail_eq htwin hchild (hled'.trail_eq.trans hled.trail_eq.symm)

/-- A clause that leads to a name leaves no issue if the name is followed: each of the texts has
been visited, so none of them is malformed. -/
theorem Resolved.issues_eq_nil_of_followed (h : Resolved resolver options visits) {visit : Visit}
    (hfollowed : visit.Followed resolver visits) {i : Nat} {clause : Clause} {target : String}
    {outcome : Outcome}
    (hclause : (Statement.active (Statement.allClauses visit.record.raw))[i]? = some clause)
    (htarget : clause.target? = some target)
    (houtcome : visit.outcomes[i]? = some (some outcome)) :
    outcome.issues target visit.record.depth = [] := by
  obtain ⟨texts, -, hne, hchildren⟩ := hfollowed i clause target hclause htarget
  obtain ⟨-, ⟨-, _, _, -, -, hanswered, -⟩, -⟩ := hchildren 0 (List.length_pos_iff.mpr hne)
  obtain rfl := Option.some.inj (Option.some.inj (houtcome.symm.trans hanswered))
  refine Outcome.issues_eq_nil_iff.mpr ⟨texts, rfl, fun raw hraw => ?_⟩
  obtain ⟨k, hk, rfl⟩ := List.getElem_of_mem hraw
  obtain ⟨child, ⟨hchild, _, raw, -, -, -, -, htext, -, -, hat⟩, -⟩ := hchildren k hk
  rw [List.getElem?_eq_getElem hk] at htext
  rw [Option.some.inj htext, ← hat]
  exact h.wellFormed hchild

/-- Where each name is followed, all that can be noted is a failed lookup. -/
theorem Resolved.isFailure_of_followed (h : Resolved resolver options visits) {visit : Visit}
    (hvisit : visit ∈ visits) (hfollowed : visit.Followed resolver visits) :
    ∀ issue ∈ visit.record.issues, issue.IsFailure := by
  intro issue hissue
  obtain ⟨statement, hreads⟩ := h.exists_reads visit hvisit
  rw [hreads.record_eq] at hissue
  rcases lookupIssue_or_of_mem_issues hissue with
    ⟨clause, -, hlookup⟩ | ⟨i, clause, target, outcome, hclause, htarget, houtcome, hissue⟩
  · exact hlookup.isFailure
  · rw [Statement.clauses_of_parse_eq_ok hreads.parse_eq] at hclause
    have hnil : outcome.issues target visit.site.depth = [] :=
      h.issues_eq_nil_of_followed hfollowed hclause htarget houtcome
    rw [hnil] at hissue
    cases hissue

/-- A record without issues is one whose names are followed and that notes no failed lookup. -/
theorem Resolved.issues_eq_nil_iff (h : Resolved resolver options visits) {visit : Visit}
    (hvisit : visit ∈ visits) :
    visit.record.issues = [] ↔
      visit.Followed resolver visits ∧ ∀ issue ∈ visit.record.issues, ¬issue.IsFailure := by
  constructor
  · intro hissues
    refine ⟨h.followed_of_issues_eq_nil hvisit hissues, ?_⟩
    rw [hissues]
    exact List.forall_mem_nil _
  · rintro ⟨hfollowed, hnone⟩
    refine List.eq_nil_iff_forall_not_mem.mpr fun issue hissue => hnone issue hissue ?_
    exact h.isFailure_of_followed hvisit hfollowed issue hissue

/-! ## Resolutions in which nothing goes wrong -/

/-- The resolution of the domain makes these visits, and nothing goes wrong on the way. -/
structure Sound (resolver : Resolver) (options : ResolveOptions) (domain : String)
    (visits : List Visit) : Prop where
  /-- The visits are those of a resolution. -/
  resolved : Resolved resolver options visits
  /-- The result consists of their records. -/
  outcome_eq : (resolve resolver options domain).outcome = .ok (visits.map (·.record))
  /-- There is at least one. -/
  ne_nil : visits ≠ []
  /-- All questions that were asked have answers. -/
  answers : ∀ query ∈ (resolve resolver options domain).queries, resolver.Answers query
  /-- All names that a clause leads to are followed, and so are all of their policies. -/
  followed : ∀ visit ∈ visits, visit.Followed resolver visits
  /-- All literals and masks can be used. -/
  inOrder : ∀ visit ∈ visits,
    ∀ clause ∈ Statement.active (Statement.allClauses visit.record.raw),
      clause.term.InOrder resolver visit.record.source

/-- Nothing goes wrong in the resolution of the domain. -/
def Trustworthy (resolver : Resolver) (options : ResolveOptions) (domain : String) : Prop :=
  ∃ visits, Sound resolver options domain visits

theorem isDoubtful_eq_false_iff {record : PolicyRecord} :
    Report.isDoubtful record = false ↔ record.hasInvalidEntries = false ∧ record.issues = [] := by
  simp [Report.isDoubtful]

/-- Where nothing goes wrong no record is doubtful. -/
theorem Sound.isDoubtful_eq_false {domain : String} (h : Sound resolver options domain visits)
    {visit : Visit} (hvisit : visit ∈ visits) : Report.isDoubtful visit.record = false := by
  have hnone := (answers_iff_of_resolve h.outcome_eq).mp h.answers visit.record
    (List.mem_map_of_mem hvisit)
  obtain ⟨statement, hreads⟩ := h.resolved.exists_reads visit hvisit
  refine isDoubtful_eq_false_iff.mpr ⟨?_, ?_⟩
  · exact hreads.hasInvalidEntries_eq_false_iff.mpr (h.inOrder visit hvisit)
  · exact (h.resolved.issues_eq_nil_iff hvisit).mpr ⟨h.followed visit hvisit, hnone⟩

/-- Whatever goes wrong makes some record doubtful. -/
theorem sound_of_isDoubtful_eq_false {domain : String}
    (hresolved : Resolved resolver options visits)
    (houtcome : (resolve resolver options domain).outcome = .ok (visits.map (·.record)))
    (hne : visits ≠ []) (hclean : ∀ visit ∈ visits, Report.isDoubtful visit.record = false) :
    Sound resolver options domain visits := by
  have hvisits : ∀ visit ∈ visits,
      visit.record.hasInvalidEntries = false ∧ visit.record.issues = [] :=
    fun visit hvisit => isDoubtful_eq_false_iff.mp (hclean visit hvisit)
  constructor
  case resolved => exact hresolved
  case outcome_eq => exact houtcome
  case ne_nil => exact hne
  case answers =>
    refine (answers_iff_of_resolve houtcome).mpr (List.forall_mem_map.mpr fun visit hvisit => ?_)
    rw [(hvisits visit hvisit).2]
    exact List.forall_mem_nil _
  case followed =>
    intro visit hvisit
    exact hresolved.followed_of_issues_eq_nil hvisit (hvisits visit hvisit).2
  case inOrder =>
    intro visit hvisit
    obtain ⟨statement, hreads⟩ := hresolved.exists_reads visit hvisit
    exact hreads.hasInvalidEntries_eq_false_iff.mp (hvisits visit hvisit).1

/-- Nothing goes wrong exactly if the result has records and none of them is doubtful. -/
theorem trustworthy_iff {domain : String} {records : List PolicyRecord}
    (h : (resolve resolver options domain).outcome = .ok records) :
    Trustworthy resolver options domain ↔
      records ≠ [] ∧ ∀ record ∈ records, Report.isDoubtful record = false := by
  constructor
  · rintro ⟨visits, hsound⟩
    obtain rfl := Except.ok.inj (h.symm.trans hsound.outcome_eq)
    refine ⟨fun hnil => hsound.ne_nil (List.map_eq_nil_iff.mp hnil), ?_⟩
    exact List.forall_mem_map.mpr fun visit hvisit => hsound.isDoubtful_eq_false hvisit
  · rintro ⟨hne, hclean⟩
    obtain ⟨visits, hresolved, rfl⟩ := exists_resolved_of_isResult (Or.inr ⟨domain, h⟩)
    refine ⟨visits, sound_of_isDoubtful_eq_false hresolved h ?_ (List.forall_mem_map.mp hclean)⟩
    exact fun hnil => hne (List.map_eq_nil_iff.mpr hnil)

end Expansion

/-! ## Reports -/

namespace Report

open Expansion

variable {resolver : Resolver} {options : ResolveOptions}

/-- There was nothing to resolve. -/
def IsSkipped (report : Report) : Prop := ∃ reason, report.finding = .skipped reason

instance (report : Report) : Decidable report.IsSkipped :=
  match h : report.finding with
  | .skipped reason => isTrue ⟨reason, h⟩
  | .resolved _ | .failed _ => isFalse (by simp [IsSkipped, h])

/-- A resolution that fails is skipped or flagged. -/
theorem flagged_ofOutcome_error {domain : String} {failure : PolicyError} :
    (ofOutcome domain (.error failure)).flagged = false ↔
      (ofOutcome domain (.error failure)).IsSkipped := by
  cases failure <;> simp [ofOutcome, flagged, IsSkipped]

theorem flagged_ofOutcome_ok {domain : String} {records : List PolicyRecord} :
    (ofOutcome domain (.ok records)).flagged = false ↔
      records ≠ [] ∧ ∀ record ∈ records, isDoubtful record = false := by
  simp [ofOutcome, flagged]

/-- The report on a domain is not flagged if the domain was skipped, or if nothing goes wrong in its
resolution. -/
theorem flagged_ofDomain {domain : String} :
    (ofDomain resolver options domain).1.flagged = false ↔
      (ofDomain resolver options domain).1.IsSkipped ∨ Trustworthy resolver options domain := by
  show (ofOutcome domain (resolve resolver options domain).outcome).flagged = false ↔
    (ofOutcome domain (resolve resolver options domain).outcome).IsSkipped ∨ _
  cases houtcome : (resolve resolver options domain).outcome with
  | ok records =>
    have hnot : ¬(ofOutcome domain (.ok records)).IsSkipped := by simp [ofOutcome, IsSkipped]
    rw [or_iff_right hnot, flagged_ofOutcome_ok, trustworthy_iff houtcome]
  | error failure =>
    have hnot : ¬Trustworthy resolver options domain := by
      rintro ⟨visits, hsound⟩
      cases houtcome.symm.trans hsound.outcome_eq
    rw [or_iff_left hnot, flagged_ofOutcome_error]

theorem anyFlagged_eq_false_iff {reports : List Report} :
    anyFlagged reports = false ↔ ∀ report ∈ reports, report.flagged = false := by
  simp [anyFlagged]

/-- Reports are delivered with zero if the format is known and none of them is flagged. -/
theorem exitCode_deliver_eq_zero_iff {arguments : Arguments} {reports : List Report} :
    (CommandLine.deliver arguments reports).exitCode = 0 ↔
      (ReportFormat.ofName? arguments.formatName).isSome = true ∧ anyFlagged reports = false := by
  rw [CommandLine.deliver]
  cases ReportFormat.ofName? arguments.formatName with
  | none => simp
  | some format =>
    cases arguments.out <;> cases anyFlagged reports <;> simp

/-- A run ends with zero if it has no domain, and otherwise if the format is known and no report is
flagged. -/
theorem exitCode_execute_eq_zero_iff {arguments : Arguments} {input : String} :
    (CommandLine.execute resolver arguments input).exitCode = 0 ↔
      CommandLine.domains arguments input = [] ∨
        (ReportFormat.ofName? arguments.formatName).isSome = true ∧
          ∀ domain ∈ CommandLine.domains arguments input,
            (ofDomain resolver arguments.resolveOptions domain).1.flagged = false := by
  rw [CommandLine.execute]
  cases CommandLine.domains arguments input with
  | nil => exact iff_of_true rfl (Or.inl rfl)
  | cons domain domains =>
    rw [or_iff_right (List.cons_ne_nil _ _), exitCode_deliver_eq_zero_iff, anyFlagged_eq_false_iff,
      CommandLine.reports, List.map_map, List.forall_mem_map]
    exact Iff.rfl

/-- A clean verdict can be trusted.  A report that is not skipped is not flagged exactly if nothing
has gone wrong; rows of reports and the exit code tell the same of all their domains. -/
theorem flagged_eq_false_iff_trustworthy :
    (∀ resolver options domain, ¬(ofDomain resolver options domain).1.IsSkipped →
      ((ofDomain resolver options domain).1.flagged = false ↔
        Trustworthy resolver options domain)) ∧
    (∀ requests : List (Resolver × ResolveOptions × String),
      anyFlagged (requests.map fun (resolver, options, domain) =>
          (ofDomain resolver options domain).1) = false ↔
        ∀ request ∈ requests, (ofDomain request.1 request.2.1 request.2.2).1.IsSkipped ∨
          Trustworthy request.1 request.2.1 request.2.2) ∧
    ∀ resolver arguments input,
      (CommandLine.execute resolver arguments input).exitCode = 0 ↔
        CommandLine.domains arguments input = [] ∨
          (ReportFormat.ofName? arguments.formatName).isSome = true ∧
            ∀ domain ∈ CommandLine.domains arguments input,
              (ofDomain resolver arguments.resolveOptions domain).1.IsSkipped ∨
                Trustworthy resolver arguments.resolveOptions domain := by
  refine ⟨fun resolver options domain hnot => ?_, fun requests => ?_,
    fun resolver arguments input => ?_⟩
  · rw [flagged_ofDomain, or_iff_right hnot]
  · rw [anyFlagged_eq_false_iff, List.forall_mem_map]
    exact forall₂_congr fun request _ => flagged_ofDomain
  · rw [exitCode_execute_eq_zero_iff]
    exact or_congr_right (and_congr_right fun _ => forall₂_congr fun domain _ => flagged_ofDomain)

/-- A name with two policies, a mask that fits, and a canonical network. -/
theorem trustworthy_of_zone :
    let resolver := Zone.resolver
      [⟨"a", .txt, .ok [.text "v=spf1 include:b a/24 ip6:2001:db8::/32 -all"]⟩,
        ⟨"a", .a, .ok [.address (.ofNat .v4 0xC0000207)]⟩,
        ⟨"b", .txt, .ok [.text "v=spf1 ~all", .text "v=spf1 mx"]⟩]
    ¬(ofDomain resolver {} "a").1.IsSkipped ∧ (ofDomain resolver {} "a").1.flagged = false ∧
      Trustworthy resolver {} "a" := by
  intro resolver
  have hskipped : ¬(ofDomain resolver {} "a").1.IsSkipped := by decide +kernel
  have hflagged : (ofDomain resolver {} "a").1.flagged = false := by decide +kernel
  exact ⟨hskipped, hflagged,
    (flagged_eq_false_iff_trustworthy.1 resolver {} "a" hskipped).mp hflagged⟩

end Report

end SenderPolicy
