import SenderPolicy.Dns.Zone
import SenderPolicy.Proofs.Expansion.Coverage

/-!
# What a tolerated failure costs

Where failures are tolerated, a lookup that fails counts as one that finds nothing, but for the
issue that it leaves.  What a lookup is matters here: the addresses of a host are two questions and
one lookup, so either of the two costs the answers of both.

* `withoutIssues_eq_of_emptied`: if the answers of failed lookups are replaced by empty ones, the
  records stay the same except for their issues.
* `not_forall_withoutIssues_eq_of_emptied_singleton`: it does not do to replace the answers of
  failed questions one by one.

A resolution reads two things off the resolver: what clauses contribute by themselves, and what
names publish.  So the comparison of two resolvers (`Course.map_view_eq`) is about these two, and it
goes through for any view of a record that forgets what became of its clauses.
-/

namespace SenderPolicy

/-! ## Failures as empty answers -/

/-- The types of the questions that make one lookup with a question of the type. -/
def RecordType.together : RecordType → List RecordType
  | .a | .aaaa => [.a, .aaaa]
  | type => [type]

namespace Resolver

variable (resolver : Resolver) (joint : RecordType → List RecordType) (name : String)

/-- The resolver that finds nothing where a lookup fails: a question has the empty answer if one of
the questions that are joint with it fails, and otherwise the answer that the resolver gives. -/
def emptied : Resolver := fun name type =>
  if (joint type).all fun other => (resolver name other).isOk then resolver name type else .ok []

/-- What is found where a failure counts as finding nothing. -/
def found {α : Type} (outcome : Except LookupError (List α)) : List α := outcome.toOption.getD []

theorem found_map {α β : Type} (f : List α → List β) (hf : f [] = [])
    (outcome : Except LookupError (List α)) : found (outcome.map f) = f (found outcome) := by
  cases outcome with
  | ok as => rfl
  | error failure => exact hf.symm

/-- A question that makes a lookup by itself. -/
theorem emptied_of_singleton {type : RecordType} (h : joint type = [type]) :
    resolver.emptied joint name type = .ok (found (resolver name type)) := by
  rw [emptied, h]
  cases hquestion : resolver name type with
  | ok answers => simp [hquestion, Except.isOk, Except.toBool, found, Except.toOption]
  | error failure => simp [hquestion, Except.isOk, Except.toBool, found, Except.toOption]

theorem outcome_mailHosts :
    (resolver.mailHosts name).outcome =
      (resolver name .mx).map fun answers => answers.filterMap Answer.name? := by
  cases h : resolver name .mx <;> simp [mailHosts, bind, Traced.bind, h, Except.map]

theorem outcome_texts :
    (resolver.texts name).outcome =
      (resolver name .txt).map fun answers => answers.filterMap Answer.text? := by
  cases h : resolver name .txt <;> simp [texts, bind, Traced.bind, h, Except.map]

theorem outcome_mailHosts_emptied :
    ((resolver.emptied RecordType.together).mailHosts name).outcome =
      .ok (found (resolver.mailHosts name).outcome) := by
  rw [outcome_mailHosts, outcome_mailHosts, emptied_of_singleton _ _ _ rfl, found_map _ rfl]
  rfl

theorem outcome_texts_emptied :
    ((resolver.emptied RecordType.together).texts name).outcome =
      .ok (found (resolver.texts name).outcome) := by
  rw [outcome_texts, outcome_texts, emptied_of_singleton _ _ _ rfl, found_map _ rfl]
  rfl

theorem outcome_policyTexts_emptied :
    ((resolver.emptied RecordType.together).policyTexts name).outcome =
      .ok (found (resolver.policyTexts name).outcome) := by
  rw [outcome_policyTexts, outcome_policyTexts, emptied_of_singleton _ _ _ rfl, found_map _ rfl]
  rfl

theorem outcome_addresses :
    (resolver.addresses name).outcome = do
      let v4 ← resolver name .a
      let v6 ← resolver name .aaaa
      return v4.filterMap Answer.address? ++ v6.filterMap Answer.address? := by
  cases h4 : resolver name .a with
  | error failure => simp [addresses, bind, Traced.bind, Except.bind, h4]
  | ok v4 =>
    cases h6 : resolver name .aaaa <;>
      simp [addresses, bind, Traced.bind, Except.bind, pure, Except.pure, h4, h6]

/-- The two questions about addresses fail together. -/
theorem outcome_addresses_emptied :
    ((resolver.emptied RecordType.together).addresses name).outcome =
      .ok (found (resolver.addresses name).outcome) := by
  rw [outcome_addresses, outcome_addresses]
  cases h4 : resolver name .a <;> cases h6 : resolver name .aaaa <;>
    simp only [emptied, RecordType.together, List.all_cons, List.all_nil, h4, h6, Except.isOk,
      Except.toBool] <;> rfl

/-- What a name publishes does not depend on whether failures are empty answers. -/
theorem policiesAt_emptied :
    (resolver.emptied RecordType.together).policiesAt name = resolver.policiesAt name := by
  rw [policiesAt, policiesAt, outcome_policyTexts_emptied]
  cases (resolver.policyTexts name).outcome <;> rfl

end Resolver

/-! ## Everything but the issues -/

/-- The record with no issues noted on it. -/
def PolicyRecord.withoutIssues (record : PolicyRecord) : PolicyRecord :=
  { record with issues := [] }

namespace Findings

/-- What was found, with no issues among it. -/
def withoutIssues (findings : Findings) : Findings := { findings with issues := [] }

theorem withoutIssues_append (x y : Findings) :
    (x ++ y).withoutIssues = x.withoutIssues ++ y.withoutIssues := rfl

theorem withoutIssues_join (xs : List Findings) :
    (join xs).withoutIssues = join (xs.map withoutIssues) := by
  induction xs with
  | nil => rfl
  | cons x xs ih => rw [join_cons, withoutIssues_append, ih, List.map_cons, join_cons]

end Findings

namespace Expansion

open Resolver

variable {resolver resolver' : Resolver} {options options' : ResolveOptions}

/-- What is found by a lookup that fails is what is found by one that finds nothing. -/
theorem withoutIssues_noting {α : Type} {target : String} {outcome : Except LookupError (List α)}
    {use use' : List α → Findings} (huse : ∀ as, (use as).withoutIssues = (use' as).withoutIssues)
    (hnil : (use' []).withoutIssues = .empty) :
    (noting target outcome use).withoutIssues =
      (noting target (.ok (found outcome)) use').withoutIssues := by
  cases outcome with
  | ok as => exact huse as
  | error failure => exact hnil.symm

theorem withoutIssues_ownOfHost (site : Site) (token : String) (mask : HostMask) (host : String) :
    (ownOfHost resolver site token mask host).withoutIssues =
      (ownOfHost (resolver.emptied RecordType.together) site token mask host).withoutIssues := by
  rw [ownOfHost, ownOfHost, outcome_addresses_emptied]
  exact withoutIssues_noting (fun _ => rfl) rfl

theorem withoutIssues_ownOfMailHosts (site : Site) (token : String) (mask : HostMask)
    (domain : String) :
    (ownOfMailHosts resolver site token mask domain).withoutIssues =
      (ownOfMailHosts (resolver.emptied RecordType.together) site token mask
        domain).withoutIssues := by
  rw [ownOfMailHosts, ownOfMailHosts, outcome_mailHosts_emptied]
  refine withoutIssues_noting (fun hosts => ?_) rfl
  rw [Findings.withoutIssues_join, Findings.withoutIssues_join, List.map_map, List.map_map]
  refine congrArg Findings.join (List.map_congr_left fun host _ => ?_)
  exact withoutIssues_ownOfHost site token mask host

theorem withoutIssues_ownOfExplanation (target : String) :
    (ownOfExplanation resolver options target).withoutIssues =
      (ownOfExplanation (resolver.emptied RecordType.together) options target).withoutIssues := by
  rw [ownOfExplanation, ownOfExplanation, outcome_texts_emptied]
  split
  · exact withoutIssues_noting (fun _ => rfl) rfl
  · rfl

/-- By itself a clause contributes the same, but for issues, where failed lookups find nothing. -/
theorem withoutIssues_own (site : Site) (clause : Clause) :
    (own resolver options site clause).withoutIssues =
      (own (resolver.emptied RecordType.together) options site clause).withoutIssues := by
  obtain ⟨token, term⟩ := clause
  cases term with
  | host kind target mask value =>
    by_cases hmask : mask = .malformed
    · subst hmask
      cases kind <;> rfl
    · cases kind with
      | a =>
        rw [own_a hmask, own_a hmask, Findings.withoutIssues_append, withoutIssues_ownOfHost]
        rfl
      | mx =>
        rw [own_mx hmask, own_mx hmask, Findings.withoutIssues_append,
          withoutIssues_ownOfMailHosts]
        rfl
  | explanation target =>
    have happend : ∀ resolver : Resolver,
        (own resolver options site ⟨token, .explanation target⟩).withoutIssues =
          (entry site .explanation target).withoutIssues ++
            (ownOfExplanation resolver options target).withoutIssues := fun _ => rfl
    rw [happend, happend, withoutIssues_ownOfExplanation]
  | _ => rfl

/-- What became of the clauses of a text shows in the issues of its record only. -/
theorem withoutIssues_recordOf (site : Site) (raw : String) (statement : Statement)
    (outcomes : List (Option Outcome)) :
    (recordOf resolver options site raw statement outcomes).withoutIssues =
      record site raw statement
        (.join (statement.clauses.map fun clause =>
          (own resolver options site clause).withoutIssues)) := by
  have hrecord : (recordOf resolver options site raw statement outcomes).withoutIssues =
      record site raw statement
        (Findings.join (statement.clauses.map (own resolver options site))).withoutIssues := rfl
  rw [hrecord, Findings.withoutIssues_join, List.map_map]
  rfl

/-! ## Two resolvers -/

variable {levels : Nat} {task : Task} {visited visited' : List String}
  {outcomes : List (Option Outcome)} {visits : List Visit}

/-- A name that is not expanded yet, while there are levels left, comes to what its policies come
to. -/
theorem Course.texts_of_name {site : Site} {trail : List Step} {index : Nat} {target : String}
    (h : Course resolver options (levels + 1) (.name site trail index target) visited outcomes
      visits visited') (hnew : Name.key target ∉ visited) :
    Course resolver options levels
      (.texts ⟨site.domain, target, site.depth + 1⟩ trail index 0 (resolver.policiesAt target))
      visited [] visits visited' := by
  cases h with
  | cycle hvisited => exact absurd hvisited hnew
  | failed _ hfailure =>
    rw [policiesAt, hfailure]
    exact .noText
  | missing _ hmissing =>
    rw [policiesAt, hmissing]
    exact .noText
  | answered _ hraws _ htexts =>
    rw [policiesAt, hraws]
    exact htexts

/-- Two resolvers that publish the same policies, and that make the same of every text in the eyes
of a view that does not see what became of its clauses, come to the same visits. -/
theorem Course.map_view_eq {γ : Type} {view : PolicyRecord → γ}
    (hview : ∀ site raw statement outcomes outcomes',
      view (recordOf resolver options site raw statement outcomes) =
        view (recordOf resolver' options' site raw statement outcomes'))
    (hpolicies : ∀ name, resolver'.policiesAt name = resolver.policiesAt name)
    (h : Course resolver options levels task visited outcomes visits visited') :
    ∀ {outcomes' : List (Option Outcome)} {visits' : List Visit} {after : List String},
      Course resolver' options' levels task visited outcomes' visits' after →
      visits.map (fun visit => view visit.record) = visits'.map (fun visit => view visit.record) ∧
        visited' = after := by
  induction h with
  | cycle hvisited =>
    intro outcomes' visits' after h'
    cases h' with
    | cycle => exact ⟨rfl, rfl⟩
    | tooDeep hnew => exact absurd hvisited hnew
    | failed hnew => exact absurd hvisited hnew
    | missing hnew => exact absurd hvisited hnew
    | answered hnew => exact absurd hvisited hnew
  | tooDeep hnew =>
    intro outcomes' visits' after h'
    cases h' with
    | cycle hvisited => exact absurd hvisited hnew
    | tooDeep => exact ⟨rfl, rfl⟩
  | @failed _ _ _ _ target _ failure hnew hfailure =>
    intro outcomes' visits' after h'
    have htexts := h'.texts_of_name hnew
    rw [hpolicies, policiesAt, hfailure] at htexts
    cases htexts
    exact ⟨rfl, rfl⟩
  | @missing _ _ _ _ target _ hnew hmissing =>
    intro outcomes' visits' after h'
    have htexts := h'.texts_of_name hnew
    rw [hpolicies, policiesAt, hmissing] at htexts
    cases htexts
    exact ⟨rfl, rfl⟩
  | answered hnew hraws _ _ ih =>
    intro outcomes' visits' after h'
    have htexts := h'.texts_of_name hnew
    rw [hpolicies, policiesAt, hraws] at htexts
    exact ih htexts
  | noText =>
    intro outcomes' visits' after h'
    cases h'
    exact ⟨rfl, rfl⟩
  | malformed hraw _ ih =>
    intro outcomes' visits' after h'
    cases h' with
    | malformed _ hrest => exact ih hrest
    | followed hraw' => rw [hraw] at hraw'; cases hraw'
  | followed hraw _ _ ihclauses ihrest =>
    intro outcomes' visits' after h'
    cases h' with
    | malformed hraw' => rw [hraw] at hraw'; cases hraw'
    | followed hraw' hclauses hrest =>
      obtain rfl := Except.ok.inj (hraw.symm.trans hraw')
      obtain ⟨hbelow, rfl⟩ := ihclauses hclauses
      obtain ⟨hvisits, rfl⟩ := ihrest hrest
      refine ⟨?_, rfl⟩
      rw [List.map_append, List.map_append, List.map_cons, List.map_cons, hbelow, hvisits]
      exact congrArg (· :: _) (hview ..)
  | noClause =>
    intro outcomes' visits' after h'
    cases h'
    exact ⟨rfl, rfl⟩
  | plain hplain _ ih =>
    intro outcomes' visits' after h'
    cases h' with
    | plain _ hrest => exact ih hrest
    | leads hlead => rw [hplain] at hlead; cases hlead
  | leads hlead _ _ ihname ihrest =>
    intro outcomes' visits' after h'
    cases h' with
    | plain hplain => rw [hplain] at hlead; cases hlead
    | leads hlead' hname hrest =>
      obtain rfl := Option.some.inj (hlead.symm.trans hlead')
      obtain ⟨hbelow, rfl⟩ := ihname hname
      obtain ⟨hvisits, rfl⟩ := ihrest hrest
      rw [List.map_append, List.map_append, hbelow, hvisits]
      exact ⟨rfl, rfl⟩

/-! ## Results -/

/-- A tolerated failure costs the lookup that it is part of, and nothing else: if the questions of
failed lookups had empty answers, a text at hand would come to as many records, and they would be
the same but for their issues. -/
theorem withoutIssues_eq_of_emptied {domain ascii raw : String}
    (hdomain : normalizeDomain domain = .ok ascii) (hraw : Statement.WellFormed raw)
    (hpolicy : options.onFailure = .tolerate) :
    ∃ records records', (parseRecord resolver options domain raw).outcome = .ok records ∧
      (parseRecord (resolver.emptied RecordType.together) options domain raw).outcome =
        .ok records' ∧
      records.map PolicyRecord.withoutIssues = records'.map PolicyRecord.withoutIssues := by
  obtain ⟨statement, hstatement⟩ := Statement.exists_parse_eq_ok_iff.mpr hraw
  have hview : ∀ site raw statement outcomes outcomes',
      (recordOf resolver options site raw statement outcomes).withoutIssues =
        (recordOf (resolver.emptied RecordType.together) options site raw statement
          outcomes').withoutIssues := by
    intro site raw statement outcomes outcomes'
    rw [withoutIssues_recordOf, withoutIssues_recordOf]
    exact congrArg (fun row => record site raw statement (.join row))
      (List.map_congr_left fun clause _ => withoutIssues_own site clause)
  obtain ⟨outcomes, below, visited', hcourse, hrecords⟩ :=
    exists_course_of_tolerate resolver options hpolicy hdomain hstatement
  obtain ⟨outcomes', below', visited'', hcourse', hrecords'⟩ :=
    exists_course_of_tolerate (resolver.emptied RecordType.together) options hpolicy hdomain
      hstatement
  obtain ⟨hbelow, -⟩ := hcourse.map_view_eq hview resolver.policiesAt_emptied hcourse'
  refine ⟨_, _, hrecords, hrecords', ?_⟩
  rw [List.map_cons, List.map_cons, List.map_map, List.map_map, hview _ _ _ outcomes outcomes']
  exact congrArg _ hbelow

/-- A host one of whose two questions fails, and an included name that cannot be looked up. -/
theorem withoutIssues_eq_of_emptied_zone :
    let failure (name : String) (type : RecordType) : LookupError :=
      .unanswered name type "SERVFAIL"
    let resolver := Zone.resolver [⟨"a", .a, .ok [.address (.ofNat .v4 0xC0000201)]⟩,
      ⟨"a", .aaaa, .error (failure "a" .aaaa)⟩, ⟨"b", .txt, .error (failure "b" .txt)⟩]
    normalizeDomain "a" = .ok "a" ∧ Statement.WellFormed "v=spf1 a include:b ip4:192.0.2.2" ∧
      ∃ records records',
        (parseRecord resolver {} "a" "v=spf1 a include:b ip4:192.0.2.2").outcome = .ok records ∧
        (parseRecord (resolver.emptied RecordType.together) {} "a"
          "v=spf1 a include:b ip4:192.0.2.2").outcome = .ok records' ∧
        records.map PolicyRecord.withoutIssues = records'.map PolicyRecord.withoutIssues := by
  intro failure resolver
  have hdomain : normalizeDomain "a" = .ok "a" := rfl
  have hraw : Statement.WellFormed "v=spf1 a include:b ip4:192.0.2.2" := by decide
  exact ⟨hdomain, hraw, withoutIssues_eq_of_emptied hdomain hraw rfl⟩

/-- A host that has an IPv4 address, and whose IPv6 addresses cannot be looked up. -/
def halfAnswered : Zone :=
  [⟨"a", .a, .ok [.address (.ofNat .v4 0xC0000201)]⟩,
    ⟨"a", .aaaa, .error (.unanswered "a" .aaaa "SERVFAIL")⟩]

/-- It is not enough to replace the answers of failed questions one by one: an IPv4 address is lost
where the question about IPv6 addresses fails. -/
theorem not_forall_withoutIssues_eq_of_emptied_singleton :
    ¬∀ (resolver : Resolver) (options : ResolveOptions) (domain ascii raw : String),
      normalizeDomain domain = .ok ascii → Statement.WellFormed raw →
      options.onFailure = .tolerate →
      ∃ records records', (parseRecord resolver options domain raw).outcome = .ok records ∧
        (parseRecord (resolver.emptied fun type => [type]) options domain raw).outcome =
          .ok records' ∧
        records.map PolicyRecord.withoutIssues = records'.map PolicyRecord.withoutIssues := by
  intro hall
  have hlost : (parseRecord halfAnswered.resolver {} "a" "v=spf1 a").outcome.map
      (List.map (·.addresses)) = .ok [[]] := by decide
  have hkept : (parseRecord (halfAnswered.resolver.emptied fun type => [type]) {} "a"
      "v=spf1 a").outcome.map (List.map (·.addresses)) =
        .ok [[⟨"a a", .ofNat .v4 0xC0000201⟩]] := by decide
  obtain ⟨records, records', hrecords, hrecords', heq⟩ :=
    hall halfAnswered.resolver {} "a" "a" "v=spf1 a" rfl (by decide) rfl
  rw [hrecords] at hlost
  rw [hrecords'] at hkept
  have haddresses : records.map (·.addresses) = records'.map (·.addresses) := by
    have hmap := congrArg (List.map (·.addresses)) heq
    rw [List.map_map, List.map_map] at hmap
    exact hmap
  have hnil : records.map (·.addresses) = [[]] := Except.ok.inj hlost
  have hone : records'.map (·.addresses) = [[⟨"a a", .ofNat .v4 0xC0000201⟩]] :=
    Except.ok.inj hkept
  rw [hnil, hone] at haddresses
  exact List.cons_ne_nil _ _ (List.cons.inj haddresses).1.symm

end Expansion

end SenderPolicy
