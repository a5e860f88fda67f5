import SenderPolicy.Proofs.Expansion.Course

/-!
# Every result has a course

The walk of `Policy.Expansion` against the relation of `Proofs.Expansion.Course`.

* `Yields.eq_own`, `Yields.eq_own_append`: a clause that leads nowhere yields what it contributes by
  itself and changes no keys; one that leads to a name yields, after that, what the name yields.
* `rel_ofClause`: two ways to follow a clause are compared lookup by lookup and name by name, so a
  comparison of two runs need not take clauses apart again.
* `exists_course_of_expand`: what the expansion of a name yields has a course.  The induction is on
  the levels that are left, because that is what `expand` recurses on; the rows of clauses and of
  texts inside one level are two inductions on lists, and both take the level below as a
  hypothesis.
* `exists_resolved_of_isResult`: the same for a whole result, from either entry point.
-/

namespace SenderPolicy

namespace Findings

/-- Nothing is found that goes beyond the record: no explanation and no other record. -/
def Plain (f : Findings) : Prop := f.explanation = none ∧ f.nested = []

theorem plain_join_map {α : Type} {find : α → Findings} (h : ∀ a, (find a).Plain)
    (as : List α) : (join (as.map find)).Plain := by
  induction as with
  | nil => exact ⟨rfl, rfl⟩
  | cons a as ih =>
    obtain ⟨hexplanation, hnested⟩ := h a
    rw [List.map_cons, join_cons, append_def, append]
    exact ⟨by rw [hexplanation, ih.1]; rfl, by rw [hnested, ih.2]; rfl⟩

end Findings

namespace Expansion

variable {resolver : Resolver} {options : ResolveOptions}

/-! ## Clauses by themselves -/

/-- A lookup whose answer is used without changing any keys. -/
theorem Yields.eq_noting {α : Type} {policy : FailurePolicy} {target : String}
    {lookup : Traced LookupError α} {walk : α → Walk Findings} {use : α → Findings}
    {visited visited' : List String} {f : Findings}
    (h : Yields (tolerating policy target lookup walk) visited f visited')
    (hwalk : ∀ {a f visited'}, Yields (walk a) visited f visited' →
      f = use a ∧ visited' = visited) :
    f = noting target lookup.outcome use ∧ visited' = visited := by
  rcases yields_tolerating.mp h with ⟨a, ha, hf⟩ | ⟨failure, hfailure, -, rfl, rfl⟩
  · rw [ha]
    exact hwalk hf
  · rw [hfailure]
    exact ⟨rfl, rfl⟩

/-- A row of walks none of which changes any keys. -/
theorem Yields.eq_map_of_mapM {α β : Type} {walk : α → Walk β} {g : α → β}
    (hwalk : ∀ {a b visited visited'}, Yields (walk a) visited b visited' →
      b = g a ∧ visited' = visited) {as : List α} :
    ∀ {visited visited' : List String} {bs : List β},
      Yields (as.mapM walk) visited bs visited' → bs = as.map g ∧ visited' = visited := by
  induction as with
  | nil => exact fun h => h.eq_of_mapM_nil
  | cons a as ih =>
    intro visited visited' bs h
    obtain ⟨b, rest, between, rfl, ha, has⟩ := h.cons_of_mapM
    obtain ⟨rfl, rfl⟩ := hwalk ha
    obtain ⟨rfl, rfl⟩ := ih has
    exact ⟨rfl, rfl⟩

theorem Yields.eq_ownOfHost {site : Site} {token : String} {mask : HostMask} {host : String}
    {visited visited' : List String} {f : Findings}
    (h : Yields (atHost resolver options site token mask host) visited f visited') :
    f = ownOfHost resolver site token mask host ∧ visited' = visited := by
  rw [atHost] at h
  exact h.eq_noting fun h => yields_pure.mp h

theorem Yields.eq_ownOfMailHosts {site : Site} {token : String} {mask : HostMask}
    {domain : String} {visited visited' : List String} {f : Findings}
    (h : Yields (atMailHosts resolver options site token mask domain) visited f visited') :
    f = ownOfMailHosts resolver site token mask domain ∧ visited' = visited := by
  rw [atMailHosts] at h
  refine h.eq_noting fun {hosts f visited'} h => ?_
  obtain ⟨fs, between, hfs, h⟩ := yields_bind.mp h
  obtain ⟨rfl, rfl⟩ := yields_pure.mp h
  obtain ⟨rfl, rfl⟩ := Yields.eq_map_of_mapM (fun h => h.eq_ownOfHost) hfs
  exact ⟨rfl, rfl⟩

theorem Yields.eq_ownOfExplanation {target : String} {visited visited' : List String}
    {f : Findings} (h : Yields (atExplanation resolver options target) visited f visited') :
    f = ownOfExplanation resolver options target ∧ visited' = visited := by
  rw [atExplanation] at h
  rw [ownOfExplanation]
  split at h
  · next hfetch =>
    rw [if_pos hfetch]
    exact h.eq_noting fun h => yields_pure.mp h
  · next hfetch =>
    rw [if_neg hfetch]
    exact yields_pure.mp h

/-- What follows an entry is put behind it. -/
theorem Yields.eq_append {e : Findings} {walk : Walk Findings} {visited visited' : List String}
    {f : Findings} (h : Yields (do return e ++ (← walk)) visited f visited') :
    ∃ g, Yields walk visited g visited' ∧ f = e ++ g := by
  obtain ⟨g, between, hg, h⟩ := yields_bind.mp h
  obtain ⟨rfl, rfl⟩ := yields_pure.mp h
  exact ⟨g, hg, rfl⟩

theorem ofClause_a {expand : Site → String → Walk Findings} {site : Site} {token value : String}
    {target : Option String} {mask : HostMask} (hmask : mask ≠ .malformed) :
    ofClause resolver options expand site ⟨token, .host .a target mask value⟩ = do
      return entry site .a value ++
        (← atHost resolver options site token mask (target.getD site.source)) := by
  cases mask <;> first | rfl | exact absurd rfl hmask

theorem ofClause_mx {expand : Site → String → Walk Findings} {site : Site} {token value : String}
    {target : Option String} {mask : HostMask} (hmask : mask ≠ .malformed) :
    ofClause resolver options expand site ⟨token, .host .mx target mask value⟩ = do
      return entry site .mx value ++
        (← atMailHosts resolver options site token mask (target.getD site.source)) := by
  cases mask <;> first | rfl | exact absurd rfl hmask

/-- Two ways to follow clauses that say the same, with different answers and options and with
different names behind them.  What goes through an entry holds between them if it holds between the
lookups and between the names that the clauses lead to. -/
theorem rel_ofClause_of_term {resolver' : Resolver} {options' : ResolveOptions}
    {expand expand' : Site → String → Walk Findings} {site : Site} {token token' : String}
    {term : Term} {R : Walk Findings → Walk Findings → Prop}
    (hpure : ∀ f : Findings, f.issues = [] → f.nested = [] → R (pure f) (pure f))
    (hentry : ∀ tag value walk walk', R walk walk' →
      R (do return entry site tag value ++ (← walk)) (do return entry site tag value ++ (← walk')))
    (hhost : ∀ mask host, R (atHost resolver options site token mask host)
      (atHost resolver' options' site token' mask host))
    (hmailHosts : ∀ mask domain, R (atMailHosts resolver options site token mask domain)
      (atMailHosts resolver' options' site token' mask domain))
    (hexplanation : ∀ target, R (atExplanation resolver options target)
      (atExplanation resolver' options' target))
    (hexpand : ∀ target, term.target? = some target →
      R (expand site target) (expand' site target)) :
    R (ofClause resolver options expand site ⟨token, term⟩)
      (ofClause resolver' options' expand' site ⟨token', term⟩) := by
  cases term with
  | inclusion target => exact hentry _ _ _ _ (hexpand target rfl)
  | redirection target => exact hentry _ _ _ _ (hexpand target rfl)
  | host kind target mask value =>
    by_cases hmask : mask = .malformed
    · subst hmask
      cases kind <;> exact hpure _ rfl rfl
    · cases kind with
      | a =>
        rw [ofClause_a hmask, ofClause_a hmask]
        exact hentry _ _ _ _ (hhost mask _)
      | mx =>
        rw [ofClause_mx hmask, ofClause_mx hmask]
        exact hentry _ _ _ _ (hmailHosts mask _)
  | explanation target => exact hentry _ _ _ _ (hexplanation target)
  | _ => exact hpure _ rfl rfl

/-- Two ways to follow one clause. -/
theorem rel_ofClause {resolver' : Resolver} {options' : ResolveOptions}
    {expand expand' : Site → String → Walk Findings} {site : Site} {clause : Clause}
    {R : Walk Findings → Walk Findings → Prop}
    (hpure : ∀ f : Findings, f.issues = [] → f.nested = [] → R (pure f) (pure f))
    (hentry : ∀ tag value walk walk', R walk walk' →
      R (do return entry site tag value ++ (← walk)) (do return entry site tag value ++ (← walk')))
    (hhost : ∀ token mask host, R (atHost resolver options site token mask host)
      (atHost resolver' options' site token mask host))
    (hmailHosts : ∀ token mask domain, R (atMailHosts resolver options site token mask domain)
      (atMailHosts resolver' options' site token mask domain))
    (hexplanation : ∀ target, R (atExplanation resolver options target)
      (atExplanation resolver' options' target))
    (hexpand : ∀ target, clause.target? = some target →
      R (expand site target) (expand' site target)) :
    R (ofClause resolver options expand site clause)
      (ofClause resolver' options' expand' site clause) :=
  rel_ofClause_of_term hpure hentry (hhost clause.token) (hmailHosts clause.token) hexplanation
    hexpand

/-- A clause that leads nowhere yields what it contributes by itself. -/
theorem Yields.eq_own {expand : Site → String → Walk Findings} {site : Site} {clause : Clause}
    {visited visited' : List String} {f : Findings} (hplain : clause.target? = none)
    (h : Yields (ofClause resolver options expand site clause) visited f visited') :
    f = own resolver options site clause ∧ visited' = visited := by
  obtain ⟨token, term⟩ := clause
  cases term with
  | inclusion target => cases hplain
  | redirection target => cases hplain
  | host kind target mask value =>
    -- a malformed mask is asked about first, whichever the mechanism is
    by_cases hmask : mask = .malformed
    · subst hmask
      cases kind <;> exact yields_pure.mp h
    · cases kind with
      | a =>
        rw [ofClause_a hmask] at h
        rw [own_a hmask]
        obtain ⟨g, hg, rfl⟩ := h.eq_append
        obtain ⟨rfl, rfl⟩ := hg.eq_ownOfHost
        exact ⟨rfl, rfl⟩
      | mx =>
        rw [ofClause_mx hmask] at h
        rw [own_mx hmask]
        obtain ⟨g, hg, rfl⟩ := h.eq_append
        obtain ⟨rfl, rfl⟩ := hg.eq_ownOfMailHosts
        exact ⟨rfl, rfl⟩
  | explanation target =>
    obtain ⟨g, hg, rfl⟩ := h.eq_append
    obtain ⟨rfl, rfl⟩ := hg.eq_ownOfExplanation
    exact ⟨rfl, rfl⟩
  | _ => exact yields_pure.mp h

/-- A clause that leads to a name yields an entry and what the name yields. -/
theorem Yields.eq_own_append {expand : Site → String → Walk Findings} {site : Site}
    {clause : Clause} {target : String} {visited visited' : List String} {f : Findings}
    (hlead : clause.target? = some target)
    (h : Yields (ofClause resolver options expand site clause) visited f visited') :
    ∃ g, Yields (expand site target) visited g visited' ∧
      f = own resolver options site clause ++ g := by
  obtain ⟨token, term⟩ := clause
  cases term with
  | inclusion name =>
    obtain rfl : name = target := Option.some.inj hlead
    exact h.eq_append
  | redirection name =>
    obtain rfl : name = target := Option.some.inj hlead
    exact h.eq_append
  | _ => cases hlead

/-! ## Rows of clauses and of texts -/

theorem plain_noting {α : Type} {target : String} {outcome : Except LookupError α}
    {use : α → Findings} (h : ∀ a, (use a).Plain) : (noting target outcome use).Plain := by
  cases outcome with
  | ok a => exact h a
  | error failure => exact ⟨rfl, rfl⟩

theorem plain_ofAddress (site : Site) (origin : String) (mask : HostMask) (address : Address) :
    (ofAddress site origin mask address).Plain := by
  rw [ofAddress]
  split
  · exact ⟨rfl, rfl⟩
  · split <;> exact ⟨rfl, rfl⟩

theorem plain_ownOfHost (site : Site) (token : String) (mask : HostMask) (host : String) :
    (ownOfHost resolver site token mask host).Plain :=
  plain_noting (Findings.plain_join_map (plain_ofAddress site _ mask))

theorem plain_ownOfMailHosts (site : Site) (token : String) (mask : HostMask) (domain : String) :
    (ownOfMailHosts resolver site token mask domain).Plain :=
  plain_noting (Findings.plain_join_map (plain_ownOfHost site token mask))

/-- By itself no clause brings any records. -/
theorem nested_own (site : Site) (clause : Clause) :
    (own resolver options site clause).nested = [] := by
  obtain ⟨token, term⟩ := clause
  cases term with
  | host kind target mask value =>
    by_cases hmask : mask = .malformed
    · subst hmask
      cases kind <;> rfl
    · cases kind with
      | a =>
        rw [own_a hmask]
        exact (plain_ownOfHost site token mask _).2
      | mx =>
        rw [own_mx hmask]
        exact (plain_ownOfMailHosts site token mask _).2
  | explanation target =>
    show (ownOfExplanation resolver options target).nested = []
    rw [ownOfExplanation]
    split
    · cases (resolver.texts target).outcome <;> rfl
    · rfl
  | _ => rfl

theorem own_append_contribution (site : Site) (clause : Clause) (clauses : List Clause)
    (outcomes : List (Option Outcome)) (nested : List PolicyRecord) :
    own resolver options site clause ++
        { contribution resolver options site clauses outcomes with nested } =
      { contribution resolver options site (clause :: clauses) (none :: outcomes) with
        nested } := by
  simp only [Findings.append_def, Findings.append, nested_own, List.nil_append]
  rfl

theorem own_append_outcome_append_contribution {site : Site} {clause : Clause} {target : String}
    (hlead : clause.target? = some target) (outcome : Outcome) (clauses : List Clause)
    (outcomes : List (Option Outcome)) (below nested : List PolicyRecord) :
    own resolver options site clause ++
          { issues := outcome.issues target site.depth, nested := below } ++
        { contribution resolver options site clauses outcomes with nested } =
      { contribution resolver options site (clause :: clauses) (some outcome :: outcomes) with
        nested := below ++ nested } := by
  obtain ⟨tag, hown⟩ : ∃ tag, own resolver options site clause = entry site tag target :=
    own_of_target? hlead
  simp only [contribution, List.map_cons, List.zipWith_cons_cons, List.flatten_cons, clauseIssues,
    hlead, Findings.join_cons, hown]
  rfl

/-- What `expand` yields for a name is what some course comes to. -/
def HasCourses (resolver : Resolver) (options : ResolveOptions) (levels : Nat)
    (expand : Site → String → Walk Findings) : Prop :=
  ∀ {site : Site} {target : String} {visited visited' : List String} {f : Findings}
    (trail : List Step) (index : Nat), Yields (expand site target) visited f visited' →
    ∃ outcome visits,
      Course resolver options levels (.name site trail index target) visited [some outcome] visits
        visited' ∧
      f = { issues := outcome.issues target site.depth, nested := visits.map (·.record) }

theorem exists_course_of_clauses {levels : Nat} {expand : Site → String → Walk Findings}
    (hexpand : HasCourses resolver options levels expand) {site : Site} (trail : List Step)
    {clauses : List Clause} :
    ∀ {visited visited' : List String} {fs : List Findings} (index : Nat),
      Yields (clauses.mapM (ofClause resolver options expand site)) visited fs visited' →
      ∃ outcomes visits,
        Course resolver options levels (.clauses site trail index clauses) visited outcomes visits
          visited' ∧
        Findings.join fs =
          { contribution resolver options site clauses outcomes with
            nested := visits.map (·.record) } := by
  induction clauses with
  | nil =>
    intro visited visited' fs index h
    obtain ⟨rfl, rfl⟩ := h.eq_of_mapM_nil
    exact ⟨[], [], .noClause, rfl⟩
  | cons clause clauses ih =>
    intro visited visited' fs index h
    obtain ⟨f, rest, between, rfl, hf, hrest⟩ := h.cons_of_mapM
    obtain ⟨outcomes, visits, hcourse, hjoin⟩ := ih (index + 1) hrest
    cases hlead : clause.target? with
    | none =>
      obtain ⟨rfl, rfl⟩ := hf.eq_own hlead
      refine ⟨none :: outcomes, visits, .plain hlead hcourse, ?_⟩
      rw [Findings.join_cons, hjoin, own_append_contribution]
    | some target =>
      obtain ⟨g, hg, rfl⟩ := hf.eq_own_append hlead
      obtain ⟨outcome, below, hname, rfl⟩ := hexpand trail index hg
      refine ⟨some outcome :: outcomes, below ++ visits, .leads hlead hname hcourse, ?_⟩
      rw [Findings.join_cons, hjoin, own_append_outcome_append_contribution hlead, List.map_append]

theorem exists_course_of_follow {levels : Nat} {expand : Site → String → Walk Findings}
    (hexpand : HasCourses resolver options levels expand) {site : Site} {raw : String}
    {statement : Statement} {visited visited' : List String} {records : List PolicyRecord}
    (trail : List Step)
    (h : Yields (follow resolver options expand site raw statement) visited records visited') :
    ∃ outcomes below,
      Course resolver options levels (.clauses site trail 0 statement.clauses)
        (Name.key site.source :: visited) outcomes below visited' ∧
      records = recordOf resolver options site raw statement outcomes :: below.map (·.record) := by
  obtain ⟨_, marked, hmark, h⟩ := yields_bind.mp h
  obtain ⟨fs, after, hfs, h⟩ := yields_bind.mp h
  obtain ⟨rfl, rfl⟩ := yields_pure.mp h
  rw [yields_modify.mp hmark] at hfs
  obtain ⟨outcomes, below, hcourse, hjoin⟩ := exists_course_of_clauses hexpand trail 0 hfs
  refine ⟨outcomes, below, hcourse, ?_⟩
  rw [hjoin]
  rfl

theorem exists_course_of_texts {levels : Nat} {expand : Site → String → Walk Findings}
    (hexpand : HasCourses resolver options levels expand) {site : Site} (trail : List Step)
    (index : Nat) {raws : List String} :
    ∀ {visited visited' : List String} {fs : List Findings} (text : Nat),
      Yields (raws.mapM (followText resolver options expand site)) visited fs visited' →
      ∃ visits,
        Course resolver options levels (.texts site trail index text raws) visited [] visits
          visited' ∧
        Findings.join fs =
          { issues := raws.filterMap (malformedIssue? site.source)
            nested := visits.map (·.record) } := by
  induction raws with
  | nil =>
    intro visited visited' fs text h
    obtain ⟨rfl, rfl⟩ := h.eq_of_mapM_nil
    exact ⟨[], .noText, rfl⟩
  | cons raw raws ih =>
    intro visited visited' fs text h
    obtain ⟨f, rest, between, rfl, hf, hrest⟩ := h.cons_of_mapM
    obtain ⟨visits, hcourse, hjoin⟩ := ih (text + 1) hrest
    rw [followText] at hf
    rw [Findings.join_cons, hjoin]
    cases hraw : Statement.parse raw with
    | error reason =>
      rw [hraw] at hf
      obtain ⟨rfl, rfl⟩ := yields_pure.mp hf
      have hissue : malformedIssue? site.source raw =
          some (.malformedInclude site.source reason.message) := by
        rw [malformedIssue?, hraw]
      refine ⟨visits, .malformed hraw hcourse, ?_⟩
      rw [List.filterMap_cons_some hissue]
      rfl
    | ok statement =>
      rw [hraw] at hf
      obtain ⟨records, after, hrecords, hf⟩ := yields_bind.mp hf
      obtain ⟨rfl, rfl⟩ := yields_pure.mp hf
      obtain ⟨outcomes, below, hclauses, rfl⟩ :=
        exists_course_of_follow hexpand (trail ++ [⟨index, text⟩]) hrecords
      have hissue : malformedIssue? site.source raw = none := by
        rw [malformedIssue?, hraw]
      refine ⟨_, .followed hraw hclauses hcourse, ?_⟩
      rw [List.filterMap_cons_none hissue, List.cons_append, List.map_cons, List.map_append]
      rfl

/-! ## Names -/

/-- What a name yields, level by level. -/
theorem exists_course_of_expand (levels : Nat) :
    HasCourses resolver options levels (expand resolver options levels) := by
  induction levels with
  | zero =>
    intro site target visited visited' f trail index h
    rw [expand] at h
    rcases yields_unlessExpanded.mp h with ⟨hvisited, rfl, rfl⟩ | ⟨hnew, h⟩
    · exact ⟨.cycle, [], .cycle hvisited, rfl⟩
    · obtain ⟨rfl, rfl⟩ := yields_pure.mp h
      exact ⟨.tooDeep, [], .tooDeep hnew, rfl⟩
  | succ levels ih =>
    intro site target visited visited' f trail index h
    rw [expand] at h
    rcases yields_unlessExpanded.mp h with ⟨hvisited, rfl, rfl⟩ | ⟨hnew, h⟩
    · exact ⟨.cycle, [], .cycle hvisited, rfl⟩
    rw [followName] at h
    rcases yields_tolerating.mp h with ⟨raws, hraws, h⟩ | ⟨failure, hfailure, hpolicy, rfl, rfl⟩
    · cases raws with
      | nil =>
        obtain ⟨rfl, rfl⟩ := yields_pure.mp h
        exact ⟨.missing, [], .missing hnew hraws, rfl⟩
      | cons raw raws =>
        obtain ⟨fs, between, hfs, h⟩ := yields_bind.mp h
        obtain ⟨rfl, rfl⟩ := yields_pure.mp h
        obtain ⟨visits, hcourse, hjoin⟩ := exists_course_of_texts ih trail index 0 hfs
        exact ⟨.answered (raw :: raws), visits,
          .answered hnew hraws (List.cons_ne_nil raw raws) hcourse, hjoin⟩
    · exact ⟨.failed failure, [], .failed hnew hfailure hpolicy, rfl⟩

/-! ## Results -/

/-- The records that a root leads to are what following its text yields. -/
theorem exists_yields_of_root {domain raw : String} {statement : Statement}
    {records : List PolicyRecord}
    (h : (root resolver options domain raw statement).outcome = .ok records) :
    ∃ visited', Yields (follow resolver options (expand resolver options options.maxDepth)
      ⟨domain, domain, 0⟩ raw statement) [] records visited' := by
  rw [root, map_eq_pure_bind] at h
  obtain ⟨⟨records', visited'⟩, hfollow, h⟩ := Traced.outcome_bind_eq_ok.mp h
  obtain rfl : records' = records := Except.ok.inj h
  exact ⟨visited', hfollow⟩

theorem exists_course_of_root {domain raw : String} {statement : Statement}
    {records : List PolicyRecord}
    (h : (root resolver options domain raw statement).outcome = .ok records) :
    ∃ outcomes below visited',
      Course resolver options options.maxDepth
        (.clauses ⟨domain, domain, 0⟩ [] 0 statement.clauses) [Name.key domain] outcomes below
        visited' ∧
      records = recordOf resolver options ⟨domain, domain, 0⟩ raw statement outcomes ::
        below.map (·.record) := by
  obtain ⟨visited', hfollow⟩ := exists_yields_of_root h
  obtain ⟨outcomes, below, hcourse, hrecords⟩ :=
    exists_course_of_follow (exists_course_of_expand options.maxDepth) [] hfollow
  exact ⟨outcomes, below, visited', hcourse, hrecords⟩

theorem outcome_resolveText_eq_ok {ascii raw : String} {records : List PolicyRecord} :
    (resolveText resolver options ascii raw).outcome = .ok records ↔
      ∃ statement, Statement.parse raw = .ok statement ∧
        (root resolver options ascii raw statement).outcome = .ok records := by
  rw [resolveText]
  cases hraw : Statement.parse raw with
  | error reason => exact ⟨nofun, nofun⟩
  | ok statement =>
    rw [Traced.outcome_mapError_eq_ok]
    exact ⟨fun h => ⟨statement, rfl, h⟩, fun ⟨_, hstatement, h⟩ => by cases hstatement; exact h⟩

/-- A text at hand has a result if the domain is accepted, the text is well formed, and the walk
comes to its end. -/
theorem outcome_parseRecord_eq_ok {domain raw : String} {records : List PolicyRecord} :
    (parseRecord resolver options domain raw).outcome = .ok records ↔
      ∃ ascii statement, normalizeDomain domain = .ok ascii ∧ Statement.parse raw = .ok statement ∧
        (root resolver options ascii raw statement).outcome = .ok records := by
  simp only [parseRecord, Traced.outcome_bind_eq_ok, Traced.outcome_ofExcept,
    outcome_resolveText_eq_ok, exists_and_left]

/-- The records that a text at hand leads to are those of a resolution that starts with the text of
the domain. -/
theorem exists_resolved_of_outcome_resolveText {ascii raw : String} {records : List PolicyRecord}
    (h : (resolveText resolver options ascii raw).outcome = .ok records) :
    ∃ first below, Resolved resolver options (first :: below) ∧
      (first :: below).map (·.record) = records ∧ first.record.domain = ascii := by
  obtain ⟨statement, hraw, hroot⟩ := outcome_resolveText_eq_ok.mp h
  obtain ⟨outcomes, below, visited', hcourse, rfl⟩ := exists_course_of_root hroot
  exact ⟨_, below, .root hraw hcourse, rfl, rfl⟩

/-- The records of every result are those of the visits of a resolution. -/
theorem exists_resolved_of_isResult {records : List PolicyRecord}
    (h : IsResult resolver options records) :
    ∃ visits, Resolved resolver options visits ∧ visits.map (·.record) = records := by
  have htext : ∀ {ascii raw : String},
      (resolveText resolver options ascii raw).outcome = .ok records →
      ∃ visits, Resolved resolver options visits ∧ visits.map (·.record) = records := by
    intro ascii raw h
    obtain ⟨first, below, hvisits, hrecords, -⟩ := exists_resolved_of_outcome_resolveText h
    exact ⟨first :: below, hvisits, hrecords⟩
  rcases h with ⟨domain, raw, h⟩ | ⟨domain, h⟩
  · obtain ⟨ascii, -, h⟩ := Traced.outcome_bind_eq_ok.mp h
    exact htext h
  · obtain ⟨ascii, -, h⟩ := Traced.outcome_bind_eq_ok.mp h
    obtain ⟨raws, -, h⟩ := Traced.outcome_bind_eq_ok.mp h
    cases raws with
    | nil =>
      obtain rfl : [] = records := Except.ok.inj h
      exact ⟨[], .nothing, rfl⟩
    | cons raw raws => exact htext h

end Expansion

end SenderPolicy
