import SenderPolicy.Proofs.Expansion.Accounting
import SenderPolicy.Proofs.Expansion.Alongside
import SenderPolicy.Proofs.Expansion.Coverage

/-!
# Malformed texts leave no trace but their issues

A name may publish texts that announce themselves as policies and are none.  If nobody published
such a text, a resolution would ask the same questions in the same order, and it would fail alike or
bring the same records; only their issues and explanations would differ, and the issues only as far
as `SparedIssues` says: `alongside_withoutMalformed`.

An explanation is the first text of a name, policy or not, so it may be one of the texts that are
gone.  That is why it is left out of the comparison.

The run with the malformed texts and the one without are taken side by side (`Alongside`), with the
same names expanded on both sides throughout.  So a malformed text does not hide its name from a
clause that leads there later.
-/

namespace SenderPolicy

open Statement

/-! ## The resolver without malformed policies -/

/-- The answer is a text that announces itself as a policy and is none. -/
def Answer.isMalformedPolicy : Answer → Bool
  | .text raw => Resolver.isPolicyText (Text.trim raw) && !decide (WellFormed (Text.trim raw))
  | _ => false

namespace Resolver

/-- The resolver, had nobody published malformed policies. -/
def withoutMalformed (resolver : Resolver) : Resolver := fun name type =>
  match type with
  | .txt => (resolver name .txt).map (List.filter (!·.isMalformedPolicy))
  | type => resolver name type

variable (resolver : Resolver) (name : String)

theorem addresses_withoutMalformed :
    resolver.withoutMalformed.addresses name = resolver.addresses name := rfl

theorem mailHosts_withoutMalformed :
    resolver.withoutMalformed.mailHosts name = resolver.mailHosts name := rfl

theorem alongside_ask : Traced.Alongside
    (fun answers answers' => answers' = answers.filter (!·.isMalformedPolicy))
    (resolver.ask name .txt) (resolver.withoutMalformed.ask name .txt) := by
  rw [ask, ask, withoutMalformed]
  cases resolver name .txt with
  | ok answers => exact .ok rfl
  | error failure => exact .error

theorem alongside_texts : Traced.Alongside (fun _ _ => True) (resolver.texts name)
    (resolver.withoutMalformed.texts name) :=
  (resolver.alongside_ask name).bind fun _ _ _ => Traced.alongside_pure trivial

/-- Of the policies the well-formed ones are left. -/
theorem filter_isPolicyText_filter (answers : List Answer) :
    (((answers.filter (!·.isMalformedPolicy)).filterMap Answer.text?).map Text.trim).filter
        isPolicyText =
      (((answers.filterMap Answer.text?).map Text.trim).filter isPolicyText).filter
        (WellFormed ·) := by
  simp only [List.filterMap_filter, List.map_filterMap, List.filter_filterMap]
  refine List.filterMap_congr fun answer _ => ?_
  cases answer with
  | address a => rfl
  | name n => rfl
  | text raw =>
    cases hpolicy : isPolicyText (Text.trim raw) with
    | false => simp [Answer.isMalformedPolicy, Answer.text?, hpolicy, Option.filter]
    | true =>
      by_cases hwf : WellFormed (Text.trim raw)
      · simp [Answer.isMalformedPolicy, Answer.text?, hpolicy, hwf, Option.filter]
      · simp [Answer.isMalformedPolicy, Answer.text?, hpolicy, hwf, Option.filter]

theorem alongside_policyTexts : Traced.Alongside
    (fun raws raws' => raws' = raws.filter (WellFormed ·))
    (resolver.policyTexts name) (resolver.withoutMalformed.policyTexts name) := by
  rw [policyTexts, policyTexts, texts, texts, bind_assoc, bind_assoc]
  refine (resolver.alongside_ask name).bind ?_
  rintro answers _ rfl
  exact Traced.alongside_pure (filter_isPolicyText_filter answers)

end Resolver

/-! ## What differs -/

/-- The issue is a malformed text. -/
def Issue.isMalformed : Issue → Bool
  | .malformedInclude _ _ => true
  | _ => false

/-- What becomes of the issues of a clause that leads to a name, or to none. -/
inductive SparedIssues (resolver : Resolver) (lead : Option String) :
    List Issue → List Issue → Prop where
  /-- Malformed texts are no issue any more.  There were none but those of the name that the clause
  leads to, which publishes a well-formed text as well. -/
  | thinned {issues : List Issue} (h : ∀ name message, .malformedInclude name message ∈ issues →
      lead = some name ∧ resolver.wellFormedAt name ≠ []) :
      SparedIssues resolver lead issues (issues.filter (!·.isMalformed))
  /-- All texts of the name were malformed and are gone, so its policy is missing. -/
  | emptied {name : String} (hlead : lead = some name) (hsome : resolver.policiesAt name ≠ [])
      (hnone : resolver.wellFormedAt name = []) :
      SparedIssues resolver lead ((resolver.policiesAt name).filterMap (Expansion.malformedIssue? name))
        [.missingRecord name]

/-- What becomes of the issues of a row of clauses, clause by clause. -/
inductive SparedRow (resolver : Resolver) : List Clause → List Issue → List Issue → Prop where
  | nil : SparedRow resolver [] [] []
  | cons {clause : Clause} {clauses : List Clause} {issues issues' rest rest' : List Issue}
      (hclause : SparedIssues resolver clause.target? issues issues')
      (hclauses : SparedRow resolver clauses rest rest') :
      SparedRow resolver (clause :: clauses) (issues ++ rest) (issues' ++ rest')

/-- A record, and what it is without malformed texts. -/
structure SparedRecord (resolver : Resolver) (record record' : PolicyRecord) : Prop where
  /-- All is the same but the issues and the explanation. -/
  same : { record' with issues := record.issues, explanation := record.explanation } = record
  /-- The issues are those of the clauses in front of the first `all`. -/
  issues : SparedRow resolver (active (allClauses record.raw)) record.issues record'.issues

/-- Findings, and what they are without malformed texts. -/
structure Findings.Spared (resolver : Resolver) (related : List Issue → List Issue → Prop)
    (f f' : Findings) : Prop where
  entries : f'.entries = f.entries
  addresses : f'.addresses = f.addresses
  networks : f'.networks = f.networks
  nested : List.Forall₂ (SparedRecord resolver) f.nested f'.nested
  issues : related f.issues f'.issues

namespace Findings

variable {resolver : Resolver} {related related' related'' : List Issue → List Issue → Prop}

theorem Spared.append {f f' g g' : Findings} (hf : f.Spared resolver related f')
    (hg : g.Spared resolver related' g')
    (h : ∀ {a a' b b'}, related a a' → related' b b' → related'' (a ++ b) (a' ++ b')) :
    (f ++ g).Spared resolver related'' (f' ++ g') where
  entries := congrArg₂ _ hf.entries hg.entries
  addresses := congrArg₂ _ hf.addresses hg.addresses
  networks := congrArg₂ _ hf.networks hg.networks
  nested := List.rel_append hf.nested hg.nested
  issues := h hf.issues hg.issues

/-- Only the issues are compared as is asked for. -/
theorem Spared.withIssues {f f' : Findings} (hf : f.Spared resolver related f')
    {issues issues' : List Issue} (h : related' issues issues') :
    ({ f with issues := issues } : Findings).Spared resolver related'
      { f' with issues := issues' } where
  entries := hf.entries
  addresses := hf.addresses
  networks := hf.networks
  nested := hf.nested
  issues := h

/-- Findings that bring no records, and issues that no malformed text is among. -/
theorem spared_self {lead : Option String} {f : Findings} (hnested : f.nested = [])
    (hissues : ∀ issue ∈ f.issues, issue.isMalformed = false) :
    f.Spared resolver (SparedIssues resolver lead) f where
  entries := rfl
  addresses := rfl
  networks := rfl
  nested := by
    rw [hnested]
    exact .nil
  issues := by
    have hkept : f.issues.filter (!·.isMalformed) = f.issues :=
      List.filter_eq_self.mpr fun issue hissue => by rw [hissues issue hissue]; rfl
    have hthinned : SparedIssues resolver lead f.issues (f.issues.filter (!·.isMalformed)) :=
      .thinned fun name message hmem => absurd (hissues _ hmem) (nomatch ·)
    rwa [hkept] at hthinned

theorem spared_ofIssue {lead : Option String} {issue : Issue} (h : issue.isMalformed = false) :
    (ofIssue issue).Spared resolver (SparedIssues resolver lead) (ofIssue issue) :=
  spared_self rfl (List.forall_mem_singleton.mpr h)

end Findings

namespace Expansion

variable {resolver : Resolver} {options : ResolveOptions}

/-- Two runs on behalf of a clause that leads to the name, or to none. -/
abbrev SparedAlongside (resolver : Resolver) (lead : Option String) :
    Walk Findings → Walk Findings → Prop :=
  Alongside (Findings.Spared resolver (SparedIssues resolver lead))

/-! ## Lookups -/

variable {lead : Option String}

/-- A walk that is the same on both sides, brings no records and notes no malformed text. -/
theorem sparedAlongside_of_yields {walk : Walk Findings}
    (h : ∀ {visited f visited'}, Yields walk visited f visited' →
      f.nested = [] ∧ ∀ issue ∈ f.issues, issue.isMalformed = false) :
    SparedAlongside resolver lead walk walk := by
  intro visited
  have hyields : ∀ f visited', (walk.run visited).outcome = .ok (f, visited') →
      f.nested = [] ∧ ∀ issue ∈ f.issues, issue.isMalformed = false := fun _ _ => h
  revert hyields
  generalize walk.run visited = run
  obtain ⟨outcome, queries⟩ := run
  intro hyields
  cases outcome with
  | error failure => exact .error
  | ok reached =>
    obtain ⟨hnested, hissues⟩ := hyields reached.1 reached.2 rfl
    exact .ok ⟨Findings.spared_self hnested hissues, rfl⟩

theorem isMalformed_of_mem_issues_ownOfHost {site : Site} {token host : String} {mask : HostMask}
    {issue : Issue} (h : issue ∈ (ownOfHost resolver site token mask host).issues) :
    issue.isMalformed = false := by
  obtain ⟨failure, -, rfl⟩ := exists_failure_of_mem_issues_ownOfHost h
  rfl

theorem atHost_withoutMalformed (site : Site) (token : String) (mask : HostMask) (host : String) :
    atHost resolver.withoutMalformed options site token mask host =
      atHost resolver options site token mask host := by
  rw [atHost, atHost, Resolver.addresses_withoutMalformed]

theorem atMailHosts_withoutMalformed (site : Site) (token : String) (mask : HostMask)
    (domain : String) : atMailHosts resolver.withoutMalformed options site token mask domain =
      atMailHosts resolver options site token mask domain := by
  have hhost : atHost resolver.withoutMalformed options site token mask =
      atHost resolver options site token mask := funext (atHost_withoutMalformed site token mask)
  rw [atMailHosts, atMailHosts, hhost, Resolver.mailHosts_withoutMalformed]

theorem sparedAlongside_atHost (site : Site) (token : String) (mask : HostMask) (host : String) :
    SparedAlongside resolver lead (atHost resolver options site token mask host)
      (atHost resolver.withoutMalformed options site token mask host) := by
  rw [atHost_withoutMalformed]
  refine sparedAlongside_of_yields fun h => ?_
  obtain ⟨rfl, -⟩ := h.eq_ownOfHost
  exact ⟨(plain_ownOfHost site token mask host).2, fun _ => isMalformed_of_mem_issues_ownOfHost⟩

theorem sparedAlongside_atMailHosts (site : Site) (token : String) (mask : HostMask)
    (domain : String) :
    SparedAlongside resolver lead (atMailHosts resolver options site token mask domain)
      (atMailHosts resolver.withoutMalformed options site token mask domain) := by
  rw [atMailHosts_withoutMalformed]
  refine sparedAlongside_of_yields fun h => ?_
  obtain ⟨rfl, -⟩ := h.eq_ownOfMailHosts
  constructor
  · exact (plain_ownOfMailHosts site token mask domain).2
  · intro issue hissue
    rcases mem_issues_noting hissue with ⟨hosts, -, hmem⟩ | ⟨failure, -, rfl⟩
    · rw [Findings.issues_join, List.flatMap_map] at hmem
      obtain ⟨host, -, hmem⟩ := List.mem_flatMap.mp hmem
      exact isMalformed_of_mem_issues_ownOfHost hmem
    · rfl

theorem sparedAlongside_atExplanation (target : String) :
    SparedAlongside resolver lead (atExplanation resolver options target)
      (atExplanation resolver.withoutMalformed options target) := by
  rw [atExplanation, atExplanation]
  split
  · refine Alongside.tolerating (resolver.alongside_texts target)
      (fun failure => Findings.spared_ofIssue rfl) fun raws raws' _ _ _ => alongside_pure ?_
    have hempty : Findings.empty.Spared resolver (SparedIssues resolver lead) .empty :=
      Findings.spared_self rfl (List.forall_mem_nil _)
    exact ⟨rfl, rfl, rfl, .nil, hempty.issues⟩
  · exact alongside_pure (Findings.spared_self rfl (List.forall_mem_nil _))

/-! ## The issues of a name -/

theorem exists_of_mem_malformedIssues {source : String} {raws : List String} {issue : Issue}
    (h : issue ∈ raws.filterMap (malformedIssue? source)) :
    ∃ message, issue = .malformedInclude source message := by
  obtain ⟨raw, -, hraw⟩ := List.mem_filterMap.mp h
  rw [malformedIssue?] at hraw
  split at hraw
  · cases hraw
  · exact ⟨_, (Option.some.inj hraw).symm⟩

/-- If a well-formed text is left of a name, its malformed ones are no issues any more. -/
theorem sparedIssues_of_wellFormedAt {name : String} (hleft : resolver.wellFormedAt name ≠ [])
    (raws : List String) :
    SparedIssues resolver (some name) (raws.filterMap (malformedIssue? name)) [] := by
  have hthinned : SparedIssues resolver (some name) (raws.filterMap (malformedIssue? name))
      ((raws.filterMap (malformedIssue? name)).filter (!·.isMalformed)) := by
    refine .thinned fun other message hmem => ?_
    obtain ⟨_, heq⟩ := exists_of_mem_malformedIssues hmem
    obtain ⟨rfl, -⟩ := Issue.malformedInclude.inj heq
    exact ⟨rfl, hleft⟩
  have hnone : (raws.filterMap (malformedIssue? name)).filter (!·.isMalformed) = [] := by
    refine List.filter_eq_nil_iff.mpr fun issue hissue => ?_
    obtain ⟨message, rfl⟩ := exists_of_mem_malformedIssues hissue
    exact Bool.false_ne_true
  rwa [hnone] at hthinned

/-! ## Clauses -/

section

-- the level below
variable {expand expand' : Site → String → Walk Findings} (hexpand : ∀ site target,
  SparedAlongside resolver (some target) (expand site target) (expand' site target))

include hexpand

/-- A clause that leads to a name is spared what the name is spared. -/
theorem sparedAlongside_ofClause (site : Site) (clause : Clause) :
    SparedAlongside resolver clause.target? (ofClause resolver options expand site clause)
      (ofClause resolver.withoutMalformed options expand' site clause) := by
  refine rel_ofClause ?_ ?_ ?_ ?_ ?_ fun target hlead => hlead ▸ hexpand site target
  · intro f hissues hnested
    exact alongside_pure (Findings.spared_self hnested (hissues ▸ List.forall_mem_nil _))
  · intro tag value walk walk' h
    refine h.bind fun f f' hf => alongside_pure ?_
    exact ⟨congrArg (_ :: ·) hf.entries, hf.addresses, hf.networks, hf.nested, hf.issues⟩
  · exact sparedAlongside_atHost site
  · exact sparedAlongside_atMailHosts site
  · exact sparedAlongside_atExplanation

theorem alongside_clauses (site : Site) (clauses : List Clause) :
    Alongside (Findings.Spared resolver (SparedRow resolver clauses))
      (Findings.join <$> clauses.mapM (ofClause resolver options expand site))
      (Findings.join <$> clauses.mapM (ofClause resolver.withoutMalformed options expand' site)) := by
  induction clauses with
  | nil =>
    rw [List.mapM_nil, List.mapM_nil, map_pure]
    exact alongside_pure ⟨rfl, rfl, rfl, .nil, .nil⟩
  | cons clause clauses ih =>
    rw [Findings.join_mapM_cons, Findings.join_mapM_cons]
    exact (sparedAlongside_ofClause hexpand site clause).bind fun f f' hf =>
      ih.map fun g g' hg => hf.append hg .cons

/-! ## Texts -/

/-- A well-formed text is followed on both sides. -/
theorem alongside_follow (site : Site) {raw : String} {statement : Statement} (hraw : parse raw = .ok statement) :
    Alongside (List.Forall₂ (SparedRecord resolver))
      (follow resolver options expand site raw statement)
      (follow resolver.withoutMalformed options expand' site raw statement) := by
  rw [follow_eq_join, follow_eq_join]
  refine (alongside_modify _).bind fun _ _ _ =>
    (alongside_clauses hexpand site statement.clauses).bind fun f f' hf => alongside_pure ?_
  refine .cons ⟨?_, ?_⟩ hf.nested
  · simp only [record, hf.entries, hf.addresses, hf.networks]
  · have hrow := hf.issues
    rw [clauses_of_parse_eq_ok hraw] at hrow
    exact hrow

/-- Of the texts of a name only the well-formed ones are followed on either side.  The others are
issues, and on the other side not even that. -/
theorem alongside_followTexts (site : Site) (raws : List String) :
    Alongside (Findings.Spared resolver fun issues issues' =>
        issues = raws.filterMap (malformedIssue? site.source) ∧ issues' = [])
      (Findings.join <$> raws.mapM (followText resolver options expand site))
      (Findings.join <$> (raws.filter (WellFormed ·)).mapM
        (followText resolver.withoutMalformed options expand' site)) := by
  induction raws with
  | nil =>
    rw [List.filter_nil, List.mapM_nil, List.mapM_nil, map_pure]
    exact alongside_pure ⟨rfl, rfl, rfl, .nil, rfl, rfl⟩
  | cons raw raws ih =>
    rw [Findings.join_mapM_cons, followText]
    cases hraw : parse raw with
    | error reason =>
      have hissue : malformedIssue? site.source raw =
          some (.malformedInclude site.source reason.message) := by rw [malformedIssue?, hraw]
      have hdropped : ¬WellFormed raw := not_wellFormed_of_parse_eq_error hraw
      rw [pure_bind, List.filter_cons, if_neg (by simpa using hdropped),
        List.filterMap_cons_some hissue, ← id_map (Findings.join <$> (raws.filter _).mapM _)]
      exact ih.map fun f f' hf => hf.withIssues ⟨congrArg _ hf.issues.1, hf.issues.2⟩
    | ok statement =>
      have hissue : malformedIssue? site.source raw = none := by rw [malformedIssue?, hraw]
      have hkept : WellFormed raw := exists_parse_eq_ok_iff.mp ⟨statement, hraw⟩
      have hfollow : Alongside
          (Findings.Spared resolver fun issues issues' => issues = [] ∧ issues' = [])
          (do
            let records ← follow resolver options expand site raw statement
            return { nested := records })
          (do
            let records ← follow resolver.withoutMalformed options expand' site raw statement
            return { nested := records }) :=
        (alongside_follow hexpand site hraw).bind fun records records' hrecords =>
          alongside_pure ⟨rfl, rfl, rfl, hrecords, rfl, rfl⟩
      rw [List.filter_cons, if_pos (by simpa using hkept), List.filterMap_cons_none hissue,
        Findings.join_mapM_cons, followText, hraw]
      refine hfollow.bind fun f f' hf => ih.map fun g g' hg => hf.append hg ?_
      rintro a a' b b' ⟨rfl, rfl⟩ hb
      exact hb

/-! ## Names -/

theorem sparedAlongside_followName (site : Site) :
    SparedAlongside resolver (some site.source) (followName resolver options expand site)
      (followName resolver.withoutMalformed options expand' site) := by
  rw [followName, followName]
  refine Alongside.tolerating (resolver.alongside_policyTexts site.source)
    (fun failure => Findings.spared_ofIssue rfl) ?_
  rintro raws _ hraws - rfl
  cases raws with
  | nil => exact alongside_pure (Findings.spared_ofIssue rfl)
  | cons raw raws =>
    have htexts := @alongside_followTexts resolver options expand expand' hexpand site (raw :: raws)
    have hpolicies : resolver.policiesAt site.source = raw :: raws := by
      rw [Resolver.policiesAt, hraws]
    rw [← Resolver.wellFormedAt_of_ok hraws] at htexts ⊢
    dsimp only
    rw [← map_eq_pure_bind]
    cases hleft : resolver.wellFormedAt site.source with
    | nil =>
      -- the missing policy takes the place of the texts
      have hmissing : (pure (.ofIssue (.missingRecord site.source)) : Walk Findings) =
          (fun f => { f with issues := [.missingRecord site.source] }) <$>
            Findings.join <$> [].mapM
              (followText resolver.withoutMalformed options expand' site) := by
        rw [List.mapM_nil, map_pure, map_pure]
        rfl
      rw [hleft] at htexts
      dsimp only
      rw [hmissing, ← id_map (Findings.join <$> (raw :: raws).mapM _)]
      refine htexts.map fun f f' hf => hf.withIssues ?_
      rw [hf.issues.1, ← hpolicies]
      exact .emptied rfl (hpolicies ▸ List.cons_ne_nil raw raws) hleft
    | cons raw' raws' =>
      rw [hleft] at htexts
      dsimp only
      rw [← map_eq_pure_bind]
      refine htexts.mono fun f f' hf => hf.withIssues ?_
      rw [hf.issues.1, hf.issues.2]
      exact sparedIssues_of_wellFormedAt (hleft ▸ List.cons_ne_nil raw' raws') (raw :: raws)

end

/-- What a name brings is spared alike on all levels. -/
theorem sparedAlongside_expand (levels : Nat) : ∀ site target,
    SparedAlongside resolver (some target) (Expansion.expand resolver options levels site target)
      (Expansion.expand resolver.withoutMalformed options levels site target) := by
  induction levels with
  | zero =>
    intro site target
    rw [Expansion.expand, Expansion.expand]
    exact (alongside_pure (Findings.spared_ofIssue rfl)).unlessExpanded
      (Findings.spared_ofIssue rfl)
  | succ levels ih =>
    intro site target
    rw [Expansion.expand, Expansion.expand]
    exact Alongside.unlessExpanded (Findings.spared_ofIssue rfl)
      (sparedAlongside_followName ih ⟨site.domain, target, site.depth + 1⟩)

theorem alongside_root {raw : String} {statement : Statement} (hraw : parse raw = .ok statement)
    (domain : String) :
    Traced.Alongside (List.Forall₂ (SparedRecord resolver))
      (root resolver options domain raw statement)
      (root resolver.withoutMalformed options domain raw statement) := by
  have hexpand : ∀ site target, SparedAlongside resolver (some target)
      (Expansion.expand resolver options options.maxDepth site target)
      (Expansion.expand resolver.withoutMalformed options options.maxDepth site target) :=
    sparedAlongside_expand options.maxDepth
  exact (alongside_follow hexpand ⟨domain, domain, 0⟩ hraw []).map fun _ _ h => h.1

end Expansion

/-! ## Results -/

theorem alongside_resolveText (resolver : Resolver) (options : ResolveOptions)
    (ascii raw : String) :
    Traced.Alongside (List.Forall₂ (SparedRecord resolver)) (resolveText resolver options ascii raw)
      (resolveText resolver.withoutMalformed options ascii raw) := by
  rw [resolveText, resolveText]
  cases hraw : parse raw with
  | error reason => exact .error
  | ok statement =>
    exact (Expansion.alongside_root hraw ascii).mapError _

/-- Without the malformed texts a resolution asks the same questions in the same order, and fails
alike or brings the same records, but for their explanations and issues. -/
theorem alongside_withoutMalformed (resolver : Resolver) (options : ResolveOptions)
    (domain raw : String) :
    Traced.Alongside (List.Forall₂ (SparedRecord resolver))
      (parseRecord resolver options domain raw)
      (parseRecord resolver.withoutMalformed options domain raw) := by
  refine (Traced.alongside_refl (fun _ => rfl) (Traced.ofExcept (normalizeDomain domain))).bind ?_
  rintro ascii _ rfl
  exact alongside_resolveText resolver options ascii raw

end SenderPolicy
