import SenderPolicy.Dns.Zone
import SenderPolicy.Proofs.Expansion.Records
import SenderPolicy.Proofs.Policy.LetterCase

/-!
# Which token settles what

Three fields of a record are settled by single tokens of its text, each by a rule of its own.

* The version is that of the last token that states one, wherever it stands.
* The action is that of the first `all`, and without an `all` the text is neutral.
* The explanation is that of the first `exp` in front of that `all` whose name publishes a text.
  A name that cannot be looked up, or that publishes nothing, leaves it to the next.

`PolicyRecord.Precedence` is the three rules, said of the tokens, and `precedence_of_isResult` says
that every record of a result obeys them.  The other records do not enter: a policy that a clause
leads to explains itself and nothing else.
-/

namespace SenderPolicy

open Statement

/-- The first text that is published under a name, if the lookup succeeds and brings one. -/
def Resolver.firstText? (resolver : Resolver) (name : String) : Option String :=
  match resolver name .txt with
  | .ok answers => (answers.filterMap Answer.text?).head?
  | .error _ => none

/-- The explanation that a term leads to, if it leads to one. -/
def Term.explained? (resolver : Resolver) : Term → Option String
  | explanation target => resolver.firstText? target
  | _ => none

/-- The fields of the record that single tokens settle are settled by the right ones. -/
structure PolicyRecord.Precedence (resolver : Resolver) (options : ResolveOptions)
    (record : PolicyRecord) : Prop where
  /-- The last token that states a version states that of the record, letter by letter. -/
  version : ∃ before sign after, tokens record.raw = before ++ (sign ++ record.version) :: after ∧
    Text.lowercase sign = "v=" ∧ ∀ later ∈ after, versionOf? later = none
  supported : Text.equalFold record.version supportedVersion = true
  /-- The first `all` has the action of the record, whatever stands behind it. -/
  action : ∀ before token after action, tokens record.raw = before ++ token :: after →
    Term.parse token = .all action → (∀ earlier ∈ before, (Term.parse earlier).isAll = false) →
    record.action = action
  neutral : (∀ token ∈ tokens record.raw, (Term.parse token).isAll = false) →
    record.action = .neutral
  unexplained : options.fetchExplanation = false → record.explanation = none
  /-- The explanation is the first text of a name that an `exp` leads to.  No `all` stands in front
  of it, and no `exp` that leads to a text. -/
  explained : options.fetchExplanation = true → ∀ text, record.explanation = some text ↔
    ∃ before token after target, tokens record.raw = before ++ token :: after ∧
      Term.parse token = .explanation target ∧ resolver.firstText? target = some text ∧
      ∀ earlier ∈ before, (Term.parse earlier).isAll = false ∧
        ∀ other, Term.parse earlier = .explanation other → resolver.firstText? other = none

/-! ## Tokens -/

namespace Term

variable {term : Term}

theorem eq_version_of_version? {value : String} (h : term.version? = some value) :
    term = .version value := by
  cases term with
  | version => exact congrArg version (Option.some.inj h)
  | _ => cases h

theorem action?_eq_none_iff : term.action? = none ↔ term.isAll = false := by
  rw [isAll, Option.isSome_eq_false_iff, Option.isNone_iff_eq_none]

theorem explained?_eq_none_iff {resolver : Resolver} : term.explained? resolver = none ↔
    ∀ target, term = .explanation target → resolver.firstText? target = none := by
  cases term with
  | explanation target => simp only [explained?, explanation.injEq, forall_eq']
  | _ => exact iff_of_true rfl nofun

end Term

namespace Statement

variable {raw : String}

/-- A version is stated behind a sign that is kept out of it. -/
theorem exists_sign_of_versionOf? {token version : String} (h : versionOf? token = some version) :
    ∃ sign, token = sign ++ version ∧ Text.lowercase sign = "v=" := by
  have hterm : Term.parse token = .version version := Term.eq_version_of_version? h
  have hknown : Term.version version ≠ .unknown := nofun
  have hreads : Term.Reads token.toList (.version version) :=
    (Term.ofChars_eq_iff hknown).mp hterm
  obtain ⟨front, htoken, opening, hopening, hfront⟩ := hreads.exists_front rfl
  obtain rfl : opening = "v=" := List.mem_singleton.mp hopening
  refine ⟨String.ofList front, ?_, ?_⟩
  · rw [← String.toList_inj, String.toList_append, String.toList_ofList, htoken]
  · rw [Text.lowercase_ofList, hfront, String.ofList_toList]

theorem firstAction_allClauses (raw : String) : firstAction (allClauses raw) =
    ((tokens raw).findSome? fun token => (Term.parse token).action?).getD .neutral := by
  rw [firstAction, allClauses, List.filterMap_map, List.head?_filterMap]
  rfl

theorem firstAction_eq {before after : List String} {token : String} {action : Action}
    (htokens : tokens raw = before ++ token :: after) (htoken : Term.parse token = .all action)
    (hfirst : ∀ earlier ∈ before, (Term.parse earlier).isAll = false) :
    firstAction (allClauses raw) = action := by
  have hfound : (tokens raw).findSome? (fun token => (Term.parse token).action?) = some action := by
    refine List.findSome?_eq_some_iff.mpr ⟨before, token, after, htokens, ?_, ?_⟩
    · rw [htoken]
      rfl
    · exact fun earlier hearlier => Term.action?_eq_none_iff.mpr (hfirst earlier hearlier)
  rw [firstAction_allClauses, hfound]
  rfl

theorem firstAction_eq_neutral (h : ∀ token ∈ tokens raw, (Term.parse token).isAll = false) :
    firstAction (allClauses raw) = .neutral := by
  have hnone : (tokens raw).findSome? (fun token => (Term.parse token).action?) = none :=
    List.findSome?_eq_none_iff.mpr fun token htoken => Term.action?_eq_none_iff.mpr (h token htoken)
  rw [firstAction_allClauses, hnone]
  rfl

/-- What is found first in the part of a row that is taken is found there with everything in front
of it. -/
theorem findSome?_takeWhile_eq_some_iff {α β : Type} {p : α → Bool} {f : α → Option β}
    {as : List α} {b : β} : (as.takeWhile p).findSome? f = some b ↔
      ∃ before a after, as = before ++ a :: after ∧ p a = true ∧ f a = some b ∧
        ∀ earlier ∈ before, p earlier = true ∧ f earlier = none := by
  rw [List.findSome?_eq_some_iff]
  constructor
  · rintro ⟨before, a, after, htaken, ha, hbefore⟩
    have hp : ∀ taken ∈ as.takeWhile p, p taken = true := List.all_eq_true.mp List.all_takeWhile
    rw [htaken, List.forall_mem_append, List.forall_mem_cons] at hp
    refine ⟨before, a, after ++ as.dropWhile p, ?_, hp.2.1, ha, ?_⟩
    · rw [← List.cons_append, ← List.append_assoc, ← htaken, List.takeWhile_append_dropWhile]
    · exact fun earlier hearlier => ⟨hp.1 earlier hearlier, hbefore earlier hearlier⟩
  · rintro ⟨before, a, after, rfl, hp, ha, hbefore⟩
    refine ⟨before, a, after.takeWhile p, ?_, ha, fun earlier h => (hbefore earlier h).2⟩
    rw [List.takeWhile_append_of_pos fun earlier h => (hbefore earlier h).1,
      List.takeWhile_cons_of_pos hp]

end Statement

/-! ## Explanations -/

namespace Findings

/-- Of findings in a row the first explanation is kept. -/
theorem explanation_join (fs : List Findings) :
    (join fs).explanation = fs.findSome? (·.explanation) := by
  induction fs with
  | nil => rfl
  | cons f fs ih =>
    have happend : (join (f :: fs)).explanation = (f.explanation <|> (join fs).explanation) := rfl
    rw [happend, ih, List.findSome?_cons]
    cases f.explanation <;> rfl

end Findings

namespace Expansion

variable {resolver : Resolver} {options : ResolveOptions}

theorem explanation_ownOfExplanation (target : String) :
    (ownOfExplanation resolver options target).explanation =
      if options.fetchExplanation then resolver.firstText? target else none := by
  rw [ownOfExplanation]
  split
  · have houtcome : (resolver.texts target).outcome =
        (resolver target .txt).map (List.filterMap Answer.text?) := by
      rw [Resolver.texts, ← map_eq_pure_bind, Traced.outcome_map, Resolver.outcome_ask]
    rw [houtcome, Resolver.firstText?]
    cases resolver target .txt <;> rfl
  · rfl

/-- Only an `exp` brings an explanation. -/
theorem explanation_own (site : Site) (clause : Clause) :
    (own resolver options site clause).explanation =
      if options.fetchExplanation then clause.term.explained? resolver else none := by
  have hnone : none = if options.fetchExplanation then (none : Option String) else none :=
    (ite_self none).symm
  obtain ⟨token, term⟩ := clause
  cases term with
  | explanation target => exact explanation_ownOfExplanation target
  | host kind target mask value =>
    refine Eq.trans ?_ hnone
    by_cases hmask : mask = .malformed
    · subst hmask
      cases kind <;> rfl
    · cases kind with
      | a =>
        rw [own_a hmask]
        exact (plain_ownOfHost site token mask _).1
      | mx =>
        rw [own_mx hmask]
        exact (plain_ownOfMailHosts site token mask _).1
  | _ => exact hnone

/-- The explanation of a record is the first one that a clause leads to. -/
theorem explanation_recordOf (site : Site) (raw : String) (statement : Statement)
    (outcomes : List (Option Outcome)) :
    (recordOf resolver options site raw statement outcomes).explanation =
      if options.fetchExplanation then
        statement.clauses.findSome? fun clause => clause.term.explained? resolver
      else none := by
  have hjoin : (recordOf resolver options site raw statement outcomes).explanation =
      (Findings.join (statement.clauses.map (own resolver options site))).explanation := rfl
  rw [hjoin, Findings.explanation_join, List.findSome?_map]
  simp only [Function.comp_def, explanation_own]
  split
  · rfl
  · exact List.findSome?_eq_none_iff.mpr fun _ _ => rfl

/-- The clauses of a text lead to an explanation if one of its tokens does that is in front of the
first `all` and behind no other one. -/
theorem findSome?_explained?_eq_some_iff {raw text : String} :
    (active (allClauses raw)).findSome? (fun clause => clause.term.explained? resolver) =
        some text ↔
      ∃ before token after target, tokens raw = before ++ token :: after ∧
        Term.parse token = .explanation target ∧ resolver.firstText? target = some text ∧
        ∀ earlier ∈ before, (Term.parse earlier).isAll = false ∧
          ∀ other, Term.parse earlier = .explanation other → resolver.firstText? other = none := by
  have htokens :
      (active (allClauses raw)).findSome? (fun clause => clause.term.explained? resolver) =
        ((tokens raw).takeWhile fun token => !(Term.parse token).isAll).findSome?
          fun token => (Term.parse token).explained? resolver := by
    rw [active, allClauses, List.takeWhile_map, List.findSome?_map]
    rfl
  rw [htokens, findSome?_takeWhile_eq_some_iff]
  simp only [Bool.not_eq_true', Term.explained?_eq_none_iff]
  constructor
  · rintro ⟨before, token, after, hsplit, -, htext, hbefore⟩
    cases hparse : Term.parse token with
    | explanation target =>
      rw [hparse] at htext
      exact ⟨before, token, after, target, hsplit, hparse, htext, hbefore⟩
    | _ =>
      rw [hparse] at htext
      cases htext
  · rintro ⟨before, token, after, target, hsplit, hparse, htext, hbefore⟩
    refine ⟨before, token, after, hsplit, ?_, ?_, hbefore⟩
    · rw [hparse]
      rfl
    · rw [hparse]
      exact htext

/-- Version, action and explanation of every record are settled by the tokens of its own text: by
the last version, by the first `all`, and by the first `exp` in front of it that leads to a text. -/
theorem precedence_of_isResult {records : List PolicyRecord}
    (h : IsResult resolver options records) :
    ∀ record ∈ records, record.Precedence resolver options := by
  intro record hrecord
  obtain ⟨statement, outcomes, hraw, heq⟩ := exists_recordOf_of_isResult h hrecord
  obtain ⟨-, hversion, hfold, haction, hclauses⟩ := eq_of_parse_eq_ok hraw
  have hstated : record.version = statement.version := congrArg PolicyRecord.version heq
  have hsettled : record.action = firstAction (allClauses record.raw) :=
    (congrArg PolicyRecord.action heq).trans haction
  have hexplanation : record.explanation =
      if options.fetchExplanation then
        (active (allClauses record.raw)).findSome? fun clause => clause.term.explained? resolver
      else none := by
    rw [← hclauses]
    exact (congrArg PolicyRecord.explanation heq).trans (explanation_recordOf ..)
  rw [← hstated] at hversion hfold
  constructor
  case version =>
    obtain ⟨before, token, after, hsplit, htoken, hlater⟩ := lastVersion_eq_some_iff.mp hversion
    obtain ⟨sign, rfl, hsign⟩ := exists_sign_of_versionOf? htoken
    exact ⟨before, sign, after, hsplit, hsign, hlater⟩
  case supported => exact hfold
  case action =>
    intro before token after action hsplit htoken hfirst
    exact hsettled.trans (firstAction_eq hsplit htoken hfirst)
  case neutral => exact fun hnone => hsettled.trans (firstAction_eq_neutral hnone)
  case unexplained =>
    intro hoff
    rw [hexplanation, hoff]
    rfl
  case explained =>
    intro hon text
    rw [hexplanation, if_pos hon]
    exact findSome?_explained?_eq_some_iff

/-- A name that cannot be looked up and a name without texts leave the explanation to a third one,
which an included policy with an explanation of its own stands in front of.  Behind the first `all`
only the version counts. -/
theorem precedence_of_zone :
    let resolver := Zone.resolver
      [⟨"e", .txt, .error (.unanswered "e" .txt "SERVFAIL")⟩,
        ⟨"g", .txt, .ok [.text "No.", .text "Never."]⟩, ⟨"h", .txt, .ok [.text "Later."]⟩,
        ⟨"b", .txt, .ok [.text "v=spf10 exp=h v=spf1"]⟩]
    let options : ResolveOptions := { fetchExplanation := true }
    let records : List PolicyRecord :=
      [{ domain := "a", source := "a"
         raw := "v=spf1 exp=e exp=f include:b exp=g exp=h ?all exp=h -all V=SPF1"
         version := "SPF1", depth := 0, action := .neutral
         entries := [⟨"a", "a", .explanation, "e"⟩, ⟨"a", "a", .explanation, "f"⟩,
           ⟨"a", "a", .inclusion, "b"⟩, ⟨"a", "a", .explanation, "g"⟩,
           ⟨"a", "a", .explanation, "h"⟩]
         addresses := [], networks := [], explanation := some "No."
         issues := [.lookupFailed "e" "TXT lookup failed for e: SERVFAIL"] },
       { domain := "a", source := "b", raw := "v=spf10 exp=h v=spf1", version := "spf1", depth := 1
         action := .neutral, entries := [⟨"a", "b", .explanation, "h"⟩], addresses := []
         networks := [], explanation := some "Later.", issues := [] }]
    IsResult resolver options records ∧
      ∀ record ∈ records, record.Precedence resolver options := by
  intro resolver options records
  have hresult : IsResult resolver options records := by
    refine Or.inl ⟨"a", "v=spf1 exp=e exp=f include:b exp=g exp=h ?all exp=h -all V=SPF1",
      outcome_parseRecord_eq_ok.mpr
      ⟨"a", ⟨"SPF1", .neutral, [⟨"v=spf1", .version "spf1"⟩, ⟨"exp=e", .explanation "e"⟩,
        ⟨"exp=f", .explanation "f"⟩, ⟨"include:b", .inclusion "b"⟩, ⟨"exp=g", .explanation "g"⟩,
        ⟨"exp=h", .explanation "h"⟩]⟩, rfl, by decide +kernel, by decide +kernel⟩⟩
  exact ⟨hresult, precedence_of_isResult hresult⟩

end Expansion

end SenderPolicy
