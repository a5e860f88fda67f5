import SenderPolicy.Proofs.Expansion.Adequacy

/-!
# Giving up at the first failure

Where failures end a resolution, it does what it would have done where they are tolerated, up to
the first question that fails, and fails with that: `endsAtFirstFailure`.  In particular the two
policies ask the same questions in the same order as long as both go on.

* `Traced.Faithful`: a lookup fails with the last of its questions, and because of it.  All lookups
  are built by `bind` from single questions, and `bind` keeps this.
* `Traced.CutAtFailure`: one run is another one cut at its first failing question.  `bind` keeps
  that too, since a run that was cut asks nothing more, and one that was not is the same run.
* `Cuts`: the same for walks, on every set of keys.  It is proved of each part of the expansion
  from the parts below it, and the induction is on the levels.

Only `Cuts.tolerating` tells the two policies apart.
-/

namespace SenderPolicy

/-- The question has an answer. -/
def Resolver.Answers (resolver : Resolver) (query : Query) : Prop :=
  ∃ answers, resolver query.name query.type = .ok answers

theorem Resolver.Answers.ne_error {resolver : Resolver} {query : Query} {failure : LookupError}
    (h : resolver.Answers query) : resolver query.name query.type ≠ .error failure := by
  obtain ⟨answers, hanswers⟩ := h
  rw [hanswers]
  exact nofun

namespace Traced

variable {resolver : Resolver} {ε α β : Type} {wrap : LookupError → ε}

/-! ## Lookups -/

/-- The lookup fails with the last of its questions, or all of them have answers. -/
inductive Faithful (resolver : Resolver) : Traced LookupError α → Prop where
  | ok {a : α} {queries : List Query} (hqueries : ∀ query ∈ queries, resolver.Answers query) :
      Faithful resolver ⟨.ok a, queries⟩
  | error {before : List Query} {query : Query} {failure : LookupError}
      (hbefore : ∀ query ∈ before, resolver.Answers query)
      (hfailure : resolver query.name query.type = .error failure) :
      Faithful resolver ⟨.error failure, before ++ [query]⟩

theorem faithful_pure (a : α) : Faithful resolver (pure a : Traced LookupError α) :=
  .ok (List.forall_mem_nil _)

theorem faithful_ask (name : String) (type : RecordType) :
    Faithful resolver (resolver.ask name type) := by
  rw [Resolver.ask]
  cases h : resolver name type with
  | ok answers => exact .ok (List.forall_mem_singleton.mpr ⟨answers, h⟩)
  | error failure =>
    have hlast : Faithful resolver (⟨.error failure, [] ++ [⟨name, type⟩]⟩ :
        Traced LookupError (List Answer)) := .error (List.forall_mem_nil _) h
    exact hlast

theorem Faithful.bind {lookup : Traced LookupError α} {next : α → Traced LookupError β}
    (h : Faithful resolver lookup) (hnext : ∀ a, Faithful resolver (next a)) :
    Faithful resolver (lookup >>= next) := by
  cases h with
  | error hbefore hfailure => exact .error hbefore hfailure
  | @ok a queries hqueries =>
    rw [bind_of_ok rfl]
    generalize hrun : next a = run
    have hfaithful := hnext a
    rw [hrun] at hfaithful
    cases hfaithful with
    | ok hrest => exact .ok (List.forall_mem_append.mpr ⟨hqueries, hrest⟩)
    | error hbefore hfailure =>
      rw [← List.append_assoc]
      exact .error (List.forall_mem_append.mpr ⟨hqueries, hbefore⟩) hfailure

/-- A lookup that has a result has got answers to all of its questions. -/
theorem Faithful.answers {lookup : Traced LookupError α} (h : Faithful resolver lookup) {a : α}
    (ha : lookup.outcome = .ok a) : ∀ query ∈ lookup.queries, resolver.Answers query := by
  cases h with
  | ok hqueries => exact hqueries
  | error _ _ => cases ha

/-! ## Runs cut short -/

/-- The second run is the first one if all its questions have answers, and otherwise what is left
of it when it fails at the first question that has none. -/
inductive CutAtFailure (resolver : Resolver) (wrap : LookupError → ε) :
    Traced ε α → Traced ε α → Prop where
  | same {run : Traced ε α} (hqueries : ∀ query ∈ run.queries, resolver.Answers query) :
      CutAtFailure resolver wrap run run
  | cut {outcome : Except ε α} {before after : List Query} {query : Query} {failure : LookupError}
      (hbefore : ∀ query ∈ before, resolver.Answers query)
      (hfailure : resolver query.name query.type = .error failure) :
      CutAtFailure resolver wrap ⟨outcome, before ++ query :: after⟩
        ⟨.error (wrap failure), before ++ [query]⟩

/-- A run that asks nothing is not cut. -/
theorem CutAtFailure.of_queries_eq_nil {run : Traced ε α} (h : run.queries = []) :
    CutAtFailure resolver wrap run run :=
  .same (by rw [h]; exact List.forall_mem_nil _)

/-- A lookup that fails where it is not tolerated ends the run right there. -/
theorem Faithful.cutAtFailure {lookup : Traced LookupError α} (h : Faithful resolver lookup) :
    CutAtFailure resolver wrap (lookup.mapError wrap) (lookup.mapError wrap) := by
  cases h with
  | ok hqueries => exact .same hqueries
  | error hbefore hfailure => exact .cut hbefore hfailure

theorem CutAtFailure.bind {full cut : Traced ε α} {next next' : α → Traced ε β}
    (h : CutAtFailure resolver wrap full cut)
    (hnext : ∀ a, CutAtFailure resolver wrap (next a) (next' a)) :
    CutAtFailure resolver wrap (full >>= next) (cut >>= next') := by
  cases h with
  | @cut outcome before after query failure hbefore hfailure =>
    -- whatever the longer run goes on to do stands behind the failing question
    rw [bind_of_error (x := ⟨.error (wrap failure), before ++ [query]⟩) rfl]
    cases outcome with
    | error e => exact .cut hbefore hfailure
    | ok a =>
      rw [bind_of_ok rfl, List.append_assoc, List.cons_append]
      exact .cut hbefore hfailure
  | same hqueries =>
    obtain ⟨outcome, queries⟩ := full
    cases outcome with
    | error e => exact .same hqueries
    | ok a =>
      rw [bind_of_ok rfl, bind_of_ok rfl]
      generalize hrun : next a = run
      generalize hrun' : next' a = run'
      have hcut := hnext a
      rw [hrun, hrun'] at hcut
      cases hcut with
      | same hrest => exact .same (List.forall_mem_append.mpr ⟨hqueries, hrest⟩)
      | cut hbefore hfailure =>
        rw [← List.append_assoc, ← List.append_assoc]
        exact .cut (List.forall_mem_append.mpr ⟨hqueries, hbefore⟩) hfailure

/-- Restating failures cuts nothing off. -/
theorem CutAtFailure.mapError {full cut : Traced LookupError α}
    (h : CutAtFailure resolver id full cut) :
    CutAtFailure resolver wrap (full.mapError wrap) (cut.mapError wrap) := by
  cases h with
  | same hqueries => exact .same hqueries
  | cut hbefore hfailure => exact .cut hbefore hfailure

end Traced

namespace Expansion

variable {resolver : Resolver} {options : ResolveOptions} {α β : Type}

/-! ## Walks cut short -/

/-- On every set of keys the second walk is the first one, cut at the first failing question. -/
def Cuts (resolver : Resolver) (full cut : Walk α) : Prop :=
  ∀ visited, Traced.CutAtFailure resolver id (full.run visited) (cut.run visited)

theorem cuts_pure (a : α) : Cuts resolver (pure a) (pure a) :=
  fun _ => .of_queries_eq_nil rfl

theorem cuts_modify (f : List String → List String) :
    Cuts resolver (modify f : Walk PUnit) (modify f) :=
  fun _ => .of_queries_eq_nil rfl

theorem Cuts.bind {full cut : Walk α} {next next' : α → Walk β} (h : Cuts resolver full cut)
    (hnext : ∀ a, Cuts resolver (next a) (next' a)) :
    Cuts resolver (full >>= next) (cut >>= next') := by
  intro visited
  rw [StateT.run_bind, StateT.run_bind]
  exact (h visited).bind fun ⟨a, between⟩ => hnext a between

theorem Cuts.mapM {f f' : α → Walk β} (as : List α) (h : ∀ a, Cuts resolver (f a) (f' a)) :
    Cuts resolver (as.mapM f) (as.mapM f') := by
  induction as with
  | nil =>
    rw [List.mapM_nil, List.mapM_nil]
    exact cuts_pure []
  | cons a as ih =>
    rw [List.mapM_cons, List.mapM_cons]
    exact (h a).bind fun b => ih.bind fun bs => cuts_pure (b :: bs)

/-- The questions of a lookup stand in front of those of its use; where it fails there are no
others. -/
theorem run_tolerating (policy : FailurePolicy) (target : String) (lookup : Traced LookupError α)
    (use : α → Walk Findings) (visited : List String) :
    (tolerating policy target lookup use).run visited =
      match lookup.outcome with
      | .ok a => ⟨((use a).run visited).outcome, lookup.queries ++ ((use a).run visited).queries⟩
      | .error failure =>
        match policy with
        | .abort => ⟨.error failure, lookup.queries⟩
        | .tolerate =>
          ⟨.ok (.ofIssue (.lookupFailed target failure.message), visited), lookup.queries⟩ := by
  have hlift : (liftM (lookup.attempt : Traced LookupError _) : Walk (Except LookupError α)).run
      visited = lookup.attempt >>= fun answer => pure (answer, visited) := rfl
  have hattempt : (lookup.attempt : Traced LookupError _).outcome = .ok lookup.outcome := rfl
  rw [tolerating, StateT.run_bind, hlift, bind_assoc, Traced.bind_of_ok hattempt]
  cases lookup.outcome with
  | ok a => rw [pure_bind]; rfl
  | error failure =>
    rw [pure_bind]
    cases policy with
    | abort => exact congrArg (Traced.mk _) (List.append_nil lookup.queries)
    | tolerate => exact congrArg (Traced.mk _) (List.append_nil lookup.queries)

/-- The one place where the two policies differ. -/
theorem Cuts.tolerating {target : String} {lookup : Traced LookupError α}
    {use use' : α → Walk Findings} (hlookup : Traced.Faithful resolver lookup)
    (huse : ∀ a, Cuts resolver (use a) (use' a)) :
    Cuts resolver (tolerating .tolerate target lookup use)
      (tolerating .abort target lookup use') := by
  intro visited
  rw [run_tolerating, run_tolerating]
  cases hlookup with
  | error hbefore hfailure => exact .cut hbefore hfailure
  | @ok a queries hqueries =>
    have hask : Traced.CutAtFailure resolver id (⟨.ok a, queries⟩ : Traced LookupError α)
        ⟨.ok a, queries⟩ := .same hqueries
    exact hask.bind fun a => huse a visited

/-- Whether a name is expanded is read off the keys, and nothing is asked. -/
theorem run_unlessExpanded (target : String) (next : Walk Findings) (visited : List String) :
    (unlessExpanded target next).run visited =
      (if Name.key target ∈ visited then pure (.ofIssue (.cycleDetected target)) else next :
        Walk Findings).run visited := by
  rw [unlessExpanded, StateT.run_bind, StateT.run_get, pure_bind]

theorem Cuts.unlessExpanded {target : String} {next next' : Walk Findings}
    (h : Cuts resolver next next') :
    Cuts resolver (unlessExpanded target next) (unlessExpanded target next') := by
  intro visited
  rw [run_unlessExpanded, run_unlessExpanded]
  split
  · exact cuts_pure _ visited
  · exact h visited

/-! ## The expansion -/

theorem faithful_addresses (host : String) :
    Traced.Faithful resolver (resolver.addresses host) :=
  (Traced.faithful_ask host .a).bind fun _ =>
    (Traced.faithful_ask host .aaaa).bind fun _ => Traced.faithful_pure _

theorem faithful_mailHosts (domain : String) :
    Traced.Faithful resolver (resolver.mailHosts domain) :=
  (Traced.faithful_ask domain .mx).bind fun _ => Traced.faithful_pure _

theorem faithful_texts (name : String) : Traced.Faithful resolver (resolver.texts name) :=
  (Traced.faithful_ask name .txt).bind fun _ => Traced.faithful_pure _

theorem faithful_policyTexts (name : String) :
    Traced.Faithful resolver (resolver.policyTexts name) :=
  (faithful_texts name).bind fun _ => Traced.faithful_pure _

theorem cuts_atHost (site : Site) (token : String) (mask : HostMask) (host : String) :
    Cuts resolver (atHost resolver { options with onFailure := .tolerate } site token mask host)
      (atHost resolver { options with onFailure := .abort } site token mask host) :=
  Cuts.tolerating (faithful_addresses host) fun _ => cuts_pure _

theorem cuts_atMailHosts (site : Site) (token : String) (mask : HostMask) (domain : String) :
    Cuts resolver
      (atMailHosts resolver { options with onFailure := .tolerate } site token mask domain)
      (atMailHosts resolver { options with onFailure := .abort } site token mask domain) := by
  refine Cuts.tolerating (faithful_mailHosts domain) fun hosts => ?_
  exact (Cuts.mapM hosts (cuts_atHost site token mask)).bind fun fs => cuts_pure _

theorem cuts_atExplanation (target : String) :
    Cuts resolver (atExplanation resolver { options with onFailure := .tolerate } target)
      (atExplanation resolver { options with onFailure := .abort } target) := by
  rw [atExplanation, atExplanation]
  split
  · exact Cuts.tolerating (faithful_texts target) fun texts => cuts_pure _
  · exact cuts_pure _

variable {expand expand' : Site → String → Walk Findings}

theorem cuts_ofClause (hexpand : ∀ site target, Cuts resolver (expand site target)
    (expand' site target)) (site : Site) (clause : Clause) :
    Cuts resolver (ofClause resolver { options with onFailure := .tolerate } expand site clause)
      (ofClause resolver { options with onFailure := .abort } expand' site clause) := by
  refine rel_ofClause ?_ ?_ ?_ ?_ ?_ fun target _ => hexpand site target
  · exact fun f _ _ => cuts_pure f
  · exact fun tag value walk walk' h => h.bind fun f => cuts_pure _
  · exact cuts_atHost site
  · exact cuts_atMailHosts site
  · exact cuts_atExplanation

theorem cuts_follow (hexpand : ∀ site target, Cuts resolver (expand site target)
    (expand' site target)) (site : Site) (raw : String) (statement : Statement) :
    Cuts resolver
      (follow resolver { options with onFailure := .tolerate } expand site raw statement)
      (follow resolver { options with onFailure := .abort } expand' site raw statement) := by
  have hclauses : Cuts resolver
      (statement.clauses.mapM
        (ofClause resolver { options with onFailure := .tolerate } expand site))
      (statement.clauses.mapM
        (ofClause resolver { options with onFailure := .abort } expand' site)) :=
    Cuts.mapM statement.clauses (cuts_ofClause hexpand site)
  exact (cuts_modify _).bind fun _ => hclauses.bind fun fs => cuts_pure _

theorem cuts_followText (hexpand : ∀ site target, Cuts resolver (expand site target)
    (expand' site target)) (site : Site) (raw : String) :
    Cuts resolver (followText resolver { options with onFailure := .tolerate } expand site raw)
      (followText resolver { options with onFailure := .abort } expand' site raw) := by
  rw [followText, followText]
  split
  · exact cuts_pure _
  · next statement _ =>
    exact (cuts_follow hexpand site raw statement).bind fun records => cuts_pure _

/-- Names are expanded to whatever is left of the levels. -/
theorem cuts_expand (levels : Nat) :
    ∀ site target, Cuts resolver
      (Expansion.expand resolver { options with onFailure := .tolerate } levels site target)
      (Expansion.expand resolver { options with onFailure := .abort } levels site target) := by
  induction levels with
  | zero =>
    intro site target
    rw [Expansion.expand, Expansion.expand]
    exact (cuts_pure _).unlessExpanded
  | succ levels ih =>
    intro site target
    rw [Expansion.expand, Expansion.expand, followName, followName]
    refine (Cuts.tolerating (faithful_policyTexts target) fun raws => ?_).unlessExpanded
    split
    · exact cuts_pure _
    · exact (Cuts.mapM _ (cuts_followText ih _)).bind fun fs => cuts_pure _

/-! ## Results -/

theorem cutAtFailure_resolveText (ascii raw : String) :
    Traced.CutAtFailure resolver PolicyError.lookup
      (resolveText resolver { options with onFailure := .tolerate } ascii raw)
      (resolveText resolver { options with onFailure := .abort } ascii raw) := by
  rw [resolveText, resolveText]
  split
  · exact .of_queries_eq_nil rfl
  · next statement _ =>
    refine Traced.CutAtFailure.mapError ?_
    rw [root, root, map_eq_pure_bind, map_eq_pure_bind]
    refine Traced.CutAtFailure.bind ?_ fun result => .of_queries_eq_nil rfl
    exact cuts_follow (cuts_expand options.maxDepth) ⟨ascii, ascii, 0⟩ raw statement []

theorem cutAtFailure_parseRecord (domain raw : String) :
    Traced.CutAtFailure resolver PolicyError.lookup
      (parseRecord resolver { options with onFailure := .tolerate } domain raw)
      (parseRecord resolver { options with onFailure := .abort } domain raw) := by
  have hdomain : Traced.CutAtFailure resolver PolicyError.lookup
      (Traced.ofExcept (normalizeDomain domain)) (Traced.ofExcept (normalizeDomain domain)) :=
    .of_queries_eq_nil rfl
  exact hdomain.bind fun ascii => cutAtFailure_resolveText ascii raw

theorem cutAtFailure_resolve (domain : String) :
    Traced.CutAtFailure resolver PolicyError.lookup
      (resolve resolver { options with onFailure := .tolerate } domain)
      (resolve resolver { options with onFailure := .abort } domain) := by
  have hdomain : Traced.CutAtFailure resolver PolicyError.lookup
      (Traced.ofExcept (normalizeDomain domain)) (Traced.ofExcept (normalizeDomain domain)) :=
    .of_queries_eq_nil rfl
  refine hdomain.bind fun ascii => (faithful_policyTexts ascii).cutAtFailure.bind fun raws => ?_
  split
  · exact .of_queries_eq_nil rfl
  · exact cutAtFailure_resolveText ascii _

/-- The second run is the first one as far as it goes: it is the same if all questions of the first
one have answers, and if one of them is the first that fails, then the second run fails with it and
asks nothing after it. -/
structure EndsAtFirstFailure (resolver : Resolver) (full cut : Traced PolicyError α) : Prop where
  eq_of_answers : (∀ query ∈ full.queries, resolver.Answers query) → cut = full
  eq_of_failure : ∀ k query failure, full.queries[k]? = some query →
    resolver query.name query.type = .error failure →
    (∀ asked ∈ full.queries.take k, resolver.Answers asked) →
    cut = ⟨.error (.lookup failure), full.queries.take (k + 1)⟩

/-- A run that is cut at a failing question ends there, and no other question is the first that
fails. -/
theorem endsAtFirstFailure_of_cutAtFailure {full cut : Traced PolicyError α}
    (h : Traced.CutAtFailure resolver PolicyError.lookup full cut) :
    EndsAtFirstFailure resolver full cut := by
  cases h with
  | same hqueries =>
    refine ⟨fun _ => rfl, fun k query failure hk hfailure _ => ?_⟩
    exact absurd hfailure (hqueries query (List.mem_of_getElem? hk)).ne_error
  | @cut outcome before after query failure hbefore hfailure =>
    have hmem : query ∈ before ++ query :: after :=
      List.mem_append_right before (List.mem_cons_self ..)
    refine ⟨fun hqueries => absurd hfailure (hqueries query hmem).ne_error, ?_⟩
    intro k query' failure' hk hfailure' htake
    obtain rfl : k = before.length := by
      rcases Nat.lt_trichotomy k before.length with hlt | heq | hgt
      · rw [List.getElem?_append_left hlt] at hk
        exact absurd hfailure' (hbefore query' (List.mem_of_getElem? hk)).ne_error
      · exact heq
      · have htaken : ((before ++ query :: after).take k)[before.length]? = some query := by
          rw [List.getElem?_take_of_lt hgt, List.getElem?_append_right (Nat.le_refl _),
            Nat.sub_self]
          rfl
        exact absurd hfailure (htake query (List.mem_of_getElem? htaken)).ne_error
    have hquery : query = query' := by
      rw [List.getElem?_append_right (Nat.le_refl _), Nat.sub_self] at hk
      exact Option.some.inj hk
    subst hquery
    obtain rfl : failure = failure' := Except.error.inj (hfailure.symm.trans hfailure')
    rw [List.take_append, List.take_of_length_le (Nat.le_succ _), Nat.add_sub_cancel_left]
    rfl

/-- Where failures are tolerated a resolution goes on after the first question that fails; where
they are not it ends there, with the failure and with the questions asked so far.  If no question
fails there is no difference, and if the first one of all does, then there is none either: without
the text of the domain itself nothing can be resolved. -/
theorem endsAtFirstFailure (resolver : Resolver) (options : ResolveOptions) (domain : String) :
    (∀ raw, EndsAtFirstFailure resolver
      (parseRecord resolver { options with onFailure := .tolerate } domain raw)
      (parseRecord resolver { options with onFailure := .abort } domain raw)) ∧
    EndsAtFirstFailure resolver
      (resolve resolver { options with onFailure := .tolerate } domain)
      (resolve resolver { options with onFailure := .abort } domain) ∧
    ∀ policy ascii failure, normalizeDomain domain = .ok ascii →
      resolver ascii .txt = .error failure →
      resolve resolver { options with onFailure := policy } domain =
        ⟨.error (.lookup failure), [⟨ascii, .txt⟩]⟩ := by
  refine ⟨fun raw => endsAtFirstFailure_of_cutAtFailure (cutAtFailure_parseRecord domain raw),
    endsAtFirstFailure_of_cutAtFailure (cutAtFailure_resolve domain), ?_⟩
  intro policy ascii failure hascii hfailure
  have hask : (resolver.policyTexts ascii) = ⟨.error failure, [⟨ascii, .txt⟩]⟩ := by
    rw [Resolver.policyTexts, Resolver.texts, Resolver.ask, hfailure]
    rfl
  rw [resolve, hascii, Traced.bind_of_ok (a := ascii) rfl, hask]
  rfl

end Expansion

end SenderPolicy
