import SenderPolicy.Proofs.Expansion.Adequacy

/-!
# The records of a result

Each record of a result is made of its own text, the place where it stands, and what became of its
clauses; `Visit.Reads` says so, and `exists_recordOf_of_isResult` forgets the rest of the
resolution.

So what is claimed about a record needs no induction over the resolution any more, unless it is
about its place among the others.
-/

namespace SenderPolicy

namespace Expansion

variable {resolver : Resolver} {options : ResolveOptions} {levels : Nat} {task : Task}
  {visited visited' : List String} {outcomes : List (Option Outcome)} {visits : List Visit}

/-- Where the text of a visit stands. -/
def Visit.site (visit : Visit) : Site :=
  ⟨visit.record.domain, visit.record.source, visit.record.depth⟩

/-- The visit is to a text that states this, and its record is made of that and of one outcome for
each clause. -/
structure Visit.Reads (resolver : Resolver) (options : ResolveOptions) (visit : Visit)
    (statement : Statement) : Prop where
  parse_eq : Statement.parse visit.record.raw = .ok statement
  length_eq : visit.outcomes.length = statement.clauses.length
  record_eq : visit.record =
    recordOf resolver options visit.site visit.record.raw statement visit.outcomes

/-- The issues of a record are those of its clauses, each with its own outcome. -/
theorem mem_issues_recordOf {site : Site} {raw : String} {statement : Statement} {issue : Issue} :
    issue ∈ (recordOf resolver options site raw statement outcomes).issues ↔
      ∃ (i : Nat) (clause : Clause) (outcome : Option Outcome),
        statement.clauses[i]? = some clause ∧ outcomes[i]? = some outcome ∧
        issue ∈ clauseIssues resolver options site clause outcome := by
  have hissues : (recordOf resolver options site raw statement outcomes).issues =
      (List.zipWith (clauseIssues resolver options site) statement.clauses outcomes).flatten := rfl
  rw [hissues, List.mem_flatten]
  constructor
  · rintro ⟨issues, hissues, hissue⟩
    obtain ⟨i, hi⟩ := List.mem_iff_getElem?.mp hissues
    obtain ⟨clause, outcome, hclause, houtcome, rfl⟩ := List.getElem?_zipWith_eq_some.mp hi
    exact ⟨i, clause, outcome, hclause, houtcome, hissue⟩
  · rintro ⟨i, clause, outcome, hclause, houtcome, hissue⟩
    refine ⟨_, List.mem_iff_getElem?.mpr ⟨i, ?_⟩, hissue⟩
    exact List.getElem?_zipWith_eq_some.mpr ⟨clause, outcome, hclause, houtcome, rfl⟩

theorem entries_recordOf (site : Site) (raw : String) (statement : Statement)
    (outcomes : List (Option Outcome)) :
    (recordOf resolver options site raw statement outcomes).entries =
      statement.clauses.flatMap fun clause => (own resolver options site clause).entries := by
  have hjoin : (recordOf resolver options site raw statement outcomes).entries =
      (Findings.join (statement.clauses.map (own resolver options site))).entries := rfl
  rw [hjoin, Findings.entries_join, List.flatMap_map]

/-- Every clause has an outcome, if only that it leads nowhere. -/
theorem Course.length_outcomes {site : Site} {trail : List Step} {row : List Clause} :
    ∀ {index : Nat} {visited : List String} {outcomes : List (Option Outcome)}
      {visits : List Visit},
      Course resolver options levels (.clauses site trail index row) visited outcomes visits
        visited' → outcomes.length = row.length := by
  induction row with
  | nil =>
    intro index visited outcomes visits h
    cases h
    rfl
  | cons clause row ih =>
    intro index visited outcomes visits h
    cases h with
    | plain _ hrest => exact congrArg (· + 1) (ih hrest)
    | leads _ _ hrest => exact congrArg (· + 1) (ih hrest)

/-- The record of a text, on its own trail. -/
theorem reads_of_course {site : Site} {trail trail' : List Step} {index : Nat} {raw : String}
    {statement : Statement} (hraw : Statement.parse raw = .ok statement)
    (h : Course resolver options levels (.clauses site trail' index statement.clauses) visited
      outcomes visits visited') :
    Visit.Reads resolver options
      ⟨trail, recordOf resolver options site raw statement outcomes, outcomes⟩ statement :=
  ⟨hraw, h.length_outcomes, rfl⟩

theorem Course.exists_reads
    (h : Course resolver options levels task visited outcomes visits visited') :
    ∀ visit ∈ visits, ∃ statement, visit.Reads resolver options statement := by
  induction h with
  | cycle | tooDeep | failed | missing | noText | noClause => exact List.forall_mem_nil _
  | answered _ _ _ _ ih => exact ih
  | malformed _ _ ih => exact ih
  | plain _ _ ih => exact ih
  | @followed _ _ _ _ _ _ _ statement _ _ _ _ _ _ hraw hclauses _ ihclauses ihrest =>
    intro visit hvisit
    rcases List.mem_append.mp hvisit with hvisit | hvisit
    · rcases List.mem_cons.mp hvisit with rfl | hvisit
      · exact ⟨statement, reads_of_course hraw hclauses⟩
      · exact ihclauses visit hvisit
    · exact ihrest visit hvisit
  | leads _ _ _ ihname ihrest =>
    exact fun visit hvisit => (List.mem_append.mp hvisit).elim (ihname visit) (ihrest visit)

theorem Resolved.exists_reads (h : Resolved resolver options visits) :
    ∀ visit ∈ visits, ∃ statement, visit.Reads resolver options statement := by
  cases h with
  | nothing => exact List.forall_mem_nil _
  | @root _ _ statement _ _ _ hraw hclauses =>
    exact List.forall_mem_cons.mpr ⟨⟨statement, reads_of_course hraw hclauses⟩,
      hclauses.exists_reads⟩

/-- Only well-formed texts are visited. -/
theorem Resolved.wellFormed (h : Resolved resolver options visits) {visit : Visit}
    (hvisit : visit ∈ visits) : Statement.WellFormed visit.record.raw := by
  obtain ⟨statement, hreads⟩ := h.exists_reads visit hvisit
  exact Statement.exists_parse_eq_ok_iff.mp ⟨statement, hreads.parse_eq⟩

/-- A record of a result is made of its own text and of what became of its clauses. -/
theorem exists_recordOf_of_isResult {records : List PolicyRecord}
    (h : IsResult resolver options records) {record : PolicyRecord} (hrecord : record ∈ records) :
    ∃ statement outcomes, Statement.parse record.raw = .ok statement ∧
      record = recordOf resolver options ⟨record.domain, record.source, record.depth⟩ record.raw
        statement outcomes := by
  obtain ⟨visits, hvisits, rfl⟩ := exists_resolved_of_isResult h
  obtain ⟨visit, hvisit, rfl⟩ := List.mem_map.mp hrecord
  obtain ⟨statement, hreads⟩ := hvisits.exists_reads visit hvisit
  exact ⟨statement, visit.outcomes, hreads.parse_eq, hreads.record_eq⟩

end Expansion

end SenderPolicy
