import SenderPolicy.Dns.Zone
import SenderPolicy.Proofs.Expansion.Adequacy

/-!
# What counts in a text

Not every token of a policy text has a say in its resolution.  A token that is no term is passed
over, and behind the first `all` only the versions are read.  `Statement.reduced` is the row of
tokens that is left without the others.

* `resolvedAlike_of_reduced_eq`: two well-formed texts that are left with the same row have the
  same resolution, question by question and record by record.  Only the text that the first record
  shows is another one.  In particular nothing behind the first `all` counts but the versions.

A text comes into its resolution through what it states, and not everything of that counts: a
clause that is no term contributes nothing (`join_mapM_filter`) and gives nothing literally.  So the
proof has two halves, one about reading (`reduced` determines the version, the verdict and the
known clauses) and one about following, and the second is an equation between walks, failures and
questions included.
-/

namespace SenderPolicy

/-- Whether a clause says anything at all. -/
def Clause.isKnown (clause : Clause) : Bool := clause.term != .unknown

/-- The record as that of another text. -/
def PolicyRecord.withRaw (raw : String) (record : PolicyRecord) : PolicyRecord :=
  { record with raw := raw }

/-! ## Reading -/

namespace Statement

/-- Whether a token states a version. -/
def statesVersion (token : String) : Bool := (Term.parse token).version?.isSome

/-- The tokens that count: those that are terms up to the first `all`, which is the last of them,
and the versions behind it. -/
def reduced : List String → List String
  | [] => []
  | token :: tokens =>
    match Term.parse token with
    | .unknown => reduced tokens
    | .all _ => token :: tokens.filter statesVersion
    | _ => token :: reduced tokens

/-- Tokens with what they say. -/
def clausesOf (tokens : List String) : List Clause :=
  tokens.map fun token => ⟨token, Term.parse token⟩

theorem clausesOf_tokens (raw : String) : clausesOf (tokens raw) = allClauses raw := rfl

theorem clausesOf_cons (token : String) (tokens : List String) :
    clausesOf (token :: tokens) = ⟨token, Term.parse token⟩ :: clausesOf tokens := rfl

/-- Leaving out the tokens that state no version leaves the versions. -/
theorem filterMap_version?_filter (tokens : List String) :
    (clausesOf (tokens.filter statesVersion)).filterMap (·.term.version?) =
      (clausesOf tokens).filterMap (·.term.version?) := by
  induction tokens with
  | nil => rfl
  | cons token tokens ih =>
    rw [List.filter_cons, statesVersion]
    cases hversion : (Term.parse token).version? with
    | none =>
      rw [if_neg (by simp), ih, clausesOf_cons, List.filterMap_cons]
      simp only [hversion]
    | some version =>
      rw [if_pos Option.isSome_some, clausesOf_cons, clausesOf_cons, List.filterMap_cons,
        List.filterMap_cons, ih]

/-- All versions are left. -/
theorem filterMap_version?_reduced (tokens : List String) :
    (clausesOf (reduced tokens)).filterMap (·.term.version?) =
      (clausesOf tokens).filterMap (·.term.version?) := by
  fun_induction reduced tokens with
  | case1 => rfl
  | case2 token tokens hunknown ih =>
    rw [ih, clausesOf_cons, hunknown]
    rfl
  | case3 token tokens action hall =>
    rw [clausesOf_cons, clausesOf_cons, List.filterMap_cons, List.filterMap_cons,
      filterMap_version?_filter]
  | case4 token tokens hknown hall ih =>
    rw [clausesOf_cons, clausesOf_cons, List.filterMap_cons, List.filterMap_cons, ih]

theorem lastVersion_reduced (tokens : List String) :
    lastVersion (clausesOf (reduced tokens)) = lastVersion (clausesOf tokens) := by
  rw [lastVersion, lastVersion, filterMap_version?_reduced]

theorem action?_eq_none_of_forall {term : Term} (h : ∀ action, term ≠ .all action) :
    term.action? = none := by
  cases term with
  | all action => exact absurd rfl (h action)
  | _ => rfl

/-- The first verdict is left. -/
theorem firstAction_reduced (tokens : List String) :
    firstAction (clausesOf (reduced tokens)) = firstAction (clausesOf tokens) := by
  fun_induction reduced tokens with
  | case1 => rfl
  | case2 token tokens hunknown ih =>
    rw [ih, firstAction, firstAction, clausesOf_cons, hunknown]
    rfl
  | case3 token tokens action hall =>
    rw [firstAction, firstAction, clausesOf_cons, clausesOf_cons, hall]
    rfl
  | case4 token tokens hknown hall ih =>
    rw [firstAction, firstAction, clausesOf_cons, clausesOf_cons, List.filterMap_cons,
      List.filterMap_cons]
    simp only [action?_eq_none_of_forall hall]
    exact ih

/-- Of the clauses in front of the first `all` those are left that say anything. -/
theorem active_reduced (tokens : List String) :
    active (clausesOf (reduced tokens)) = (active (clausesOf tokens)).filter Clause.isKnown := by
  fun_induction reduced tokens with
  | case1 => rfl
  | case2 token tokens hunknown ih =>
    rw [ih, clausesOf_cons, hunknown]
    rfl
  | case3 token tokens action hall =>
    rw [clausesOf_cons, clausesOf_cons, hall]
    rfl
  | case4 token tokens hknown hall ih =>
    have hactive (clauses : List Clause) : active (⟨token, Term.parse token⟩ :: clauses) =
        ⟨token, Term.parse token⟩ :: active clauses := by
      rw [active, List.takeWhile_cons, Term.isAll, action?_eq_none_of_forall hall]
      rfl
    have hkept : Clause.isKnown ⟨token, Term.parse token⟩ = true := bne_iff_ne.mpr hknown
    rw [clausesOf_cons, clausesOf_cons, hactive, hactive, List.filter_cons_of_pos hkept, ih]

/-- Behind an `all` only the versions are left. -/
theorem reduced_append_all {token : String} {action : Action} (hall : Term.parse token = .all action)
    (before : List String) {after after' : List String}
    (hafter : after.filter statesVersion = after'.filter statesVersion) :
    reduced (before ++ token :: after) = reduced (before ++ token :: after') := by
  induction before with
  | nil => simp only [List.nil_append, reduced, hall, hafter]
  | cons first before ih =>
    -- An `all` in front of this one is the end already.
    cases hfirst : Term.parse first with
    | all action =>
      simp only [List.cons_append, reduced, hfirst, List.filter_append, List.filter_cons, hafter]
    | _ => simp only [List.cons_append, reduced, hfirst, ih]

/-- A well-formed text states what the tokens state that count. -/
theorem parse_eq_of_reduced_eq {raw raw' : String} (hraw : WellFormed raw)
    (hraw' : WellFormed raw') (h : reduced (tokens raw) = reduced (tokens raw')) :
    ∃ statement statement', parse raw = .ok statement ∧ parse raw' = .ok statement' ∧
      statement'.version = statement.version ∧ statement'.action = statement.action ∧
      statement'.clauses.filter Clause.isKnown = statement.clauses.filter Clause.isKnown := by
  obtain ⟨statement, hparse⟩ := exists_parse_eq_ok_iff.mpr hraw
  obtain ⟨statement', hparse'⟩ := exists_parse_eq_ok_iff.mpr hraw'
  obtain ⟨-, hversion, -, haction, hclauses⟩ := eq_of_parse_eq_ok hparse
  obtain ⟨-, hversion', -, haction', hclauses'⟩ := eq_of_parse_eq_ok hparse'
  refine ⟨statement, statement', hparse, hparse', ?_, ?_, ?_⟩
  · rw [← clausesOf_tokens, ← lastVersion_reduced] at hversion hversion'
    rw [← h, hversion] at hversion'
    exact (Option.some.inj hversion').symm
  · rw [haction, haction', ← clausesOf_tokens, ← clausesOf_tokens, ← firstAction_reduced,
      ← firstAction_reduced (tokens raw), h]
  · rw [hclauses, hclauses', ← clausesOf_tokens, ← clausesOf_tokens, ← active_reduced,
      ← active_reduced, h]

/-- Whether a text is well formed does not depend on what is behind its first `all`, the versions
apart. -/
theorem wellFormed_of_append_all {raw raw' token : String} {action : Action}
    (hall : Term.parse token = .all action) {before after after' : List String}
    (hafter : after.filter statesVersion = after'.filter statesVersion)
    (htokens : tokens raw = before ++ token :: after)
    (htokens' : tokens raw' = before ++ token :: after') (hraw : WellFormed raw) :
    WellFormed raw' := by
  have hversion : lastVersion (allClauses raw') = lastVersion (allClauses raw) := by
    rw [← clausesOf_tokens, ← clausesOf_tokens, ← lastVersion_reduced,
      ← lastVersion_reduced (tokens raw), htokens, htokens',
      reduced_append_all hall before hafter]
  have hstated := hversion ▸ hraw.2
  refine ⟨Nat.le_of_not_lt fun hshort => ?_, hstated⟩
  -- If the `all` were the only token, no version would be stated.
  obtain ⟨rfl, rfl⟩ : before = [] ∧ after' = [] := by
    rw [htokens', List.length_append, List.length_cons] at hshort
    constructor <;> refine List.eq_nil_of_length_eq_zero ?_ <;> omega
  have hnone : lastVersion (allClauses raw') = none := by
    rw [← clausesOf_tokens, htokens', List.nil_append, clausesOf_cons, hall]
    rfl
  rw [hnone] at hstated
  cases hstated

end Statement

/-! ## Following -/

namespace Traced

variable {ε δ α β : Type}

theorem mapError_map (wrap : ε → δ) (f : α → β) (x : Traced ε α) :
    (f <$> x).mapError wrap = f <$> x.mapError wrap := by
  rw [map_eq_pure_bind, map_eq_pure_bind]
  obtain ⟨outcome, queries⟩ := x
  cases outcome <;> rfl

end Traced

namespace Findings

variable {m : Type → Type} [Monad m] [LawfulMonad m]

/-- In a row of findings those can be left out that are none. -/
theorem join_mapM_filter {f : Clause → m Findings} (hf : ∀ clause, clause.isKnown = false →
    f clause = pure .empty) (clauses : List Clause) :
    join <$> clauses.mapM f = join <$> (clauses.filter Clause.isKnown).mapM f := by
  induction clauses with
  | nil => rfl
  | cons clause clauses ih =>
    rw [join_mapM_cons, ih]
    cases hknown : clause.isKnown with
    | true => rw [List.filter_cons_of_pos hknown, join_mapM_cons]
    | false =>
      rw [List.filter_cons_of_neg (by simp [hknown]), hf clause hknown, pure_bind]
      simp only [empty_append, id_map']

end Findings

namespace Expansion

variable (resolver : Resolver) (options : ResolveOptions)

/-- A clause that says nothing contributes nothing. -/
theorem ofClause_of_not_isKnown (expand : Site → String → Walk Findings) (site : Site)
    {clause : Clause} (h : clause.isKnown = false) :
    ofClause resolver options expand site clause = pure .empty := by
  have hterm : clause.term = .unknown := by simpa [Clause.isKnown] using h
  simp only [ofClause, hterm]

theorem filterMap_ofClause?_filter (clauses : List Clause) :
    (clauses.filter Clause.isKnown).filterMap Literal.ofClause? =
      clauses.filterMap Literal.ofClause? := by
  induction clauses with
  | nil => rfl
  | cons clause clauses ih =>
    cases hknown : clause.isKnown with
    | true => rw [List.filter_cons_of_pos hknown, List.filterMap_cons, List.filterMap_cons, ih]
    | false =>
      have hterm : clause.term = .unknown := by simpa [Clause.isKnown] using hknown
      have hnone : Literal.ofClause? clause = none := by simp only [Literal.ofClause?, hterm]
      rw [List.filter_cons_of_neg (by simp [hknown]), List.filterMap_cons_none hnone, ih]

/-- A text is followed by its known clauses. -/
theorem follow_eq_join_known (expand : Site → String → Walk Findings) (site : Site) (raw : String)
    (statement : Statement) :
    follow resolver options expand site raw statement = do
      modify (Name.key site.source :: ·)
      let findings ← Findings.join <$>
        (statement.clauses.filter Clause.isKnown).mapM (ofClause resolver options expand site)
      return record site raw statement findings :: findings.nested := by
  rw [← Findings.join_mapM_filter fun clause => ofClause_of_not_isKnown resolver options expand site,
    follow_eq_join]

/-- Two texts that state the same are followed alike. -/
theorem follow_eq_map (expand : Site → String → Walk Findings) (site : Site) (raw raw' : String)
    {statement statement' : Statement} (hversion : statement'.version = statement.version)
    (haction : statement'.action = statement.action)
    (hclauses : statement'.clauses.filter Clause.isKnown =
      statement.clauses.filter Clause.isKnown) :
    follow resolver options expand site raw' statement' =
      List.modifyHead (·.withRaw raw') <$> follow resolver options expand site raw statement := by
  have hrecord (findings : Findings) : record site raw' statement' findings =
      (record site raw statement findings).withRaw raw' := by
    have hliterals := congrArg (List.filterMap Literal.ofClause?) hclauses
    rw [filterMap_ofClause?_filter, filterMap_ofClause?_filter] at hliterals
    simp only [record, PolicyRecord.withRaw, hversion, haction, hliterals]
  simp only [follow_eq_join_known, hclauses, hrecord, map_bind, map_pure, List.modifyHead_cons]

theorem root_eq_map (ascii raw raw' : String) {statement statement' : Statement}
    (hversion : statement'.version = statement.version)
    (haction : statement'.action = statement.action)
    (hclauses : statement'.clauses.filter Clause.isKnown =
      statement.clauses.filter Clause.isKnown) :
    root resolver options ascii raw' statement' =
      List.modifyHead (·.withRaw raw') <$> root resolver options ascii raw statement := by
  rw [root, root, follow_eq_map resolver options _ _ raw raw' hversion haction hclauses,
    StateT.run_map, Functor.map_map, Functor.map_map]

end Expansion

/-! ## Results -/

/-- Two texts have the same resolution as the policy of a domain, but for the text that the first
record shows. -/
structure ResolvedAlike (resolver : Resolver) (options : ResolveOptions)
    (domain raw raw' : String) : Prop where
  /-- The same questions are asked, in the same order. -/
  queries : (parseRecord resolver options domain raw').queries =
    (parseRecord resolver options domain raw).queries
  /-- There is the same error, or there are the same records. -/
  outcome : (parseRecord resolver options domain raw').outcome =
    (parseRecord resolver options domain raw).outcome.map (List.modifyHead (·.withRaw raw'))

open Statement

theorem parseRecord_eq_map (resolver : Resolver) (options : ResolveOptions) (domain : String)
    {raw raw' : String} (hraw : WellFormed raw) (hraw' : WellFormed raw')
    (h : reduced (tokens raw) = reduced (tokens raw')) :
    parseRecord resolver options domain raw' =
      List.modifyHead (·.withRaw raw') <$> parseRecord resolver options domain raw := by
  obtain ⟨statement, statement', hparse, hparse', hversion, haction, hclauses⟩ :=
    parse_eq_of_reduced_eq hraw hraw' h
  have htext (ascii : String) : resolveText resolver options ascii raw' =
      List.modifyHead (·.withRaw raw') <$> resolveText resolver options ascii raw := by
    simp only [resolveText, hparse, hparse',
      Expansion.root_eq_map resolver options ascii raw raw' hversion haction hclauses,
      Traced.mapError_map]
  simp only [parseRecord, htext, map_bind]

/-- Well-formed texts that are left with the same tokens have the same resolution.  In particular
nothing behind the first `all` counts, the versions apart. -/
theorem resolvedAlike_of_reduced_eq (resolver : Resolver) (options : ResolveOptions)
    (domain : String) {raw : String} (hraw : WellFormed raw) :
    (∀ raw', WellFormed raw' → reduced (tokens raw) = reduced (tokens raw') →
      ResolvedAlike resolver options domain raw raw') ∧
    ∀ raw' token action before after after', Term.parse token = .all action →
      tokens raw = before ++ token :: after → tokens raw' = before ++ token :: after' →
      after.filter statesVersion = after'.filter statesVersion →
      ResolvedAlike resolver options domain raw raw' := by
  have hreduced (raw' : String) (hraw' : WellFormed raw')
      (h : reduced (tokens raw) = reduced (tokens raw')) :
      ResolvedAlike resolver options domain raw raw' := by
    have hmap := parseRecord_eq_map resolver options domain hraw hraw' h
    exact ⟨by rw [hmap, Traced.queries_map], by rw [hmap, Traced.outcome_map]⟩
  refine ⟨hreduced, ?_⟩
  intro raw' token action before after after' hall htokens htokens' hafter
  refine hreduced raw' (wellFormed_of_append_all hall hafter htokens htokens' hraw) ?_
  rw [htokens, htokens', reduced_append_all hall before hafter]

/-- Spaces, a token that is no term, and anything behind the `all` make no difference. -/
theorem resolvedAlike_first_all :
    ResolvedAlike (Zone.resolver []) {} "a" "v=spf1 a -all"
        "v=spf1  a spf2 -all redirect=b +all" ∧
      ResolvedAlike (Zone.resolver []) {} "a" "v=spf1 a -all" "v=spf1 a -all include:b mx" :=
  ⟨(resolvedAlike_of_reduced_eq (Zone.resolver []) {} "a" (by decide)).1 _ (by decide) (by decide),
    (resolvedAlike_of_reduced_eq (Zone.resolver []) {} "a" (by decide)).2 _ "-all" .fail
      ["v=spf1", "a"] [] ["include:b", "mx"] rfl (by decide) (by decide) rfl⟩

end SenderPolicy
