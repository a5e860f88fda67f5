import SenderPolicy.Proofs.Expansion.Abort
import SenderPolicy.Proofs.Expansion.Accounting

/-!
# What is noted on the way

The issues of a walk are those of the record that it contributes to, and those of the records that
it brings (`Findings.noted`).  Nothing is lost on the way up: a row notes what its parts note
(`mem_noted_join`), and the records of a text note what its clauses have noted (`noted_follow`).  So
an issue that is noted anywhere in a walk is on one of the records of the result.

* `answers_iff_of_resolve`: all questions of a resolution have answers exactly if none of its
  records notes a failed lookup.
* `tells_expand`: the same of one expansion.  It is proved of each part of the expansion from the
  parts below it (`Tells`), and the induction is on the levels.
-/

namespace SenderPolicy

/-- The issues that the record contributed to will have, and those of the records below it. -/
def Findings.noted (f : Findings) : List Issue := f.issues ++ f.nested.flatMap (·.issues)

namespace Findings

theorem mem_noted_append {f g : Findings} {issue : Issue} :
    issue ∈ (f ++ g).noted ↔ issue ∈ f.noted ∨ issue ∈ g.noted := by
  simp only [noted, append_def, append, List.flatMap_append, List.mem_append]
  exact or_or_or_comm

theorem mem_noted_join {fs : List Findings} {issue : Issue} :
    issue ∈ (join fs).noted ↔ ∃ f ∈ fs, issue ∈ f.noted := by
  induction fs with
  | nil => simp [noted, empty]
  | cons f fs ih => simp only [join_cons, mem_noted_append, ih, List.exists_mem_cons_iff]

/-- No issue of the kind is noted. -/
def Free (kind : Issue → Prop) (f : Findings) : Prop := ∀ issue ∈ f.noted, ¬kind issue

variable {kind : Issue → Prop}

theorem free_append {f g : Findings} : (f ++ g).Free kind ↔ f.Free kind ∧ g.Free kind := by
  simp only [Free, mem_noted_append, or_imp, forall_and]

theorem free_join {fs : List Findings} : (join fs).Free kind ↔ ∀ f ∈ fs, f.Free kind := by
  simp only [Free, mem_noted_join, forall_exists_index, and_imp]
  exact ⟨fun h f hf issue => h issue f hf, fun h issue f hf => h f hf issue⟩

theorem free_of_noted_eq_nil {f : Findings} (h : f.noted = []) : f.Free kind := by
  rw [Free, h]
  exact List.forall_mem_nil _

theorem free_ofIssue {issue : Issue} : (ofIssue issue).Free kind ↔ ¬kind issue :=
  List.forall_mem_singleton

end Findings

/-- The issue is a failed lookup. -/
def Issue.IsFailure : Issue → Prop
  | .lookupFailed _ _ => True
  | _ => False

namespace Expansion

/-- The records of a text note what its clauses have noted. -/
theorem noted_follow (site : Site) (raw : String) (statement : Statement) (f : Findings) :
    (record site raw statement f :: f.nested).flatMap (·.issues) = f.noted := rfl

/-! ## Failed lookups -/

variable {resolver : Resolver} {options : ResolveOptions} {α β : Type}

/-- Where the walk yields something, that is unspoilt exactly if all questions of the walk have
answers. -/
def Tells (resolver : Resolver) (unspoilt : α → Prop) (walk : Walk α) : Prop :=
  ∀ visited a visited', Yields walk visited a visited' →
    ((∀ query ∈ (walk.run visited).queries, resolver.Answers query) ↔ unspoilt a)

/-- No failed lookup was noted. -/
abbrev Unspoilt : Findings → Prop := Findings.Free Issue.IsFailure

theorem unspoilt_entry (site : Site) (tag : EntryTag) (value : String) :
    Unspoilt (entry site tag value) := Findings.free_of_noted_eq_nil rfl

theorem tells_pure {unspoilt : α → Prop} {a : α} (ha : unspoilt a) :
    Tells resolver unspoilt (pure a) := by
  intro visited b visited' h
  obtain ⟨rfl, -⟩ := yields_pure.mp h
  exact iff_of_true (List.forall_mem_nil _) ha

theorem Tells.map {unspoilt : α → Prop} {unspoilt' : β → Prop} {walk : Walk α} {g : α → β}
    (h : Tells resolver unspoilt walk) (hg : ∀ a, unspoilt a ↔ unspoilt' (g a)) :
    Tells resolver unspoilt' (walk >>= fun a => pure (g a)) := by
  intro visited b visited' hyields
  obtain ⟨a, between, ha, hb⟩ := yields_bind.mp hyields
  obtain ⟨rfl, rfl⟩ := yields_pure.mp hb
  have hqueries : ((pure (g a) : Walk β).run visited').queries = [] := rfl
  rw [queries_bind ha, hqueries, List.append_nil, h visited a visited' ha, hg]

theorem Tells.mapM {unspoilt : β → Prop} {f : α → Walk β} {as : List α}
    (h : ∀ a ∈ as, Tells resolver unspoilt (f a)) :
    Tells resolver (fun bs => ∀ b ∈ bs, unspoilt b) (as.mapM f) := by
  induction as with
  | nil =>
    rw [List.mapM_nil]
    exact tells_pure (List.forall_mem_nil _)
  | cons a as ih =>
    rw [List.mapM_cons]
    intro visited bs visited' hyields
    obtain ⟨b, between, hb, hyields⟩ := yields_bind.mp hyields
    obtain ⟨rest, after, hrest, hpure⟩ := yields_bind.mp hyields
    obtain ⟨rfl, -⟩ := yields_pure.mp hpure
    have htail := ih fun a ha => h a (List.mem_cons_of_mem _ ha)
    have hqueries : ((pure (b :: rest) : Walk (List β)).run after).queries = [] := rfl
    rw [queries_bind hb, queries_bind hrest, hqueries, List.append_nil, List.forall_mem_append,
      h a (List.mem_cons_self ..) visited b between hb, htail between rest after hrest]
    exact List.forall_mem_cons.symm

/-- A failed lookup ends with a question that has no answer, and a tolerated one is noted. -/
theorem Tells.tolerating {policy : FailurePolicy} {target : String}
    {lookup : Traced LookupError α} {use : α → Walk Findings}
    (hlookup : Traced.Faithful resolver lookup)
    (huse : ∀ a, lookup.outcome = .ok a → Tells resolver Unspoilt (use a)) :
    Tells resolver Unspoilt (tolerating policy target lookup use) := by
  intro visited f visited' hyields
  rw [run_tolerating]
  cases hlookup with
  | @ok a queries hqueries =>
    rcases yields_tolerating.mp hyields with ⟨a', ha, hf⟩ | ⟨failure, hfailure, -⟩
    · obtain rfl := Except.ok.inj ha
      rw [← huse a rfl visited f visited' hf]
      dsimp only
      rw [List.forall_mem_append, and_iff_right hqueries]
    · cases hfailure
  | @error before query failure hbefore hfailure =>
    rcases yields_tolerating.mp hyields with ⟨a, ha, -⟩ | ⟨_, heq, hpolicy, rfl, -⟩
    · cases ha
    · obtain rfl := Except.error.inj heq
      subst hpolicy
      refine iff_of_false (fun h => ?_) fun h => ?_
      · exact (h query (List.mem_append_right _ (List.mem_singleton_self _))).ne_error hfailure
      · exact h _ (List.mem_singleton_self _) trivial

theorem Tells.unlessExpanded {target : String} {next : Walk Findings}
    (h : Tells resolver Unspoilt next) :
    Tells resolver Unspoilt (unlessExpanded target next) := by
  intro visited f visited' hyields
  rw [run_unlessExpanded]
  rcases yields_unlessExpanded.mp hyields with ⟨hmem, rfl, rfl⟩ | ⟨hnew, hf⟩
  · rw [if_pos hmem]
    exact iff_of_true (List.forall_mem_nil _) (Findings.free_ofIssue.mpr id)
  · rw [if_neg hnew]
    exact h visited f visited' hf

/-! ## The expansion -/

theorem unspoilt_ofAddress (site : Site) (origin : String) (mask : HostMask) (address : Address) :
    Unspoilt (ofAddress site origin mask address) := by
  refine Findings.free_of_noted_eq_nil ?_
  rw [Findings.noted, issues_ofAddress, (plain_ofAddress ..).2]
  rfl

theorem tells_atHost (site : Site) (token : String) (mask : HostMask) (host : String) :
    Tells resolver Unspoilt (atHost resolver options site token mask host) := by
  refine Tells.tolerating (faithful_addresses host) fun addresses _ => tells_pure ?_
  refine Findings.free_join.mpr (List.forall_mem_map.mpr fun address _ => ?_)
  exact unspoilt_ofAddress site _ mask address

theorem tells_atMailHosts (site : Site) (token : String) (mask : HostMask) (domain : String) :
    Tells resolver Unspoilt (atMailHosts resolver options site token mask domain) := by
  refine Tells.tolerating (faithful_mailHosts domain) fun hosts _ => ?_
  have hrow : Tells resolver (fun fs => ∀ f ∈ fs, Unspoilt f)
      (hosts.mapM (atHost resolver options site token mask)) :=
    Tells.mapM fun host _ => tells_atHost site token mask host
  exact hrow.map fun _ => Findings.free_join.symm

theorem tells_atExplanation (target : String) :
    Tells resolver Unspoilt (atExplanation resolver options target) := by
  rw [atExplanation]
  split
  · exact Tells.tolerating (faithful_texts target) fun texts _ =>
      tells_pure (Findings.free_of_noted_eq_nil rfl)
  · exact tells_pure (Findings.free_of_noted_eq_nil rfl)

/-- What stands behind an entry is all that tells anything. -/
theorem Tells.behind_entry {walk : Walk Findings} (h : Tells resolver Unspoilt walk) (site : Site)
    (tag : EntryTag) (value : String) :
    Tells resolver Unspoilt (do return entry site tag value ++ (← walk)) :=
  h.map fun _ => (Findings.free_append.trans (and_iff_right (unspoilt_entry site tag value))).symm

variable {expand : Site → String → Walk Findings}

theorem tells_ofClause (hexpand : ∀ site target, Tells resolver Unspoilt (expand site target))
    (site : Site) (clause : Clause) :
    Tells resolver Unspoilt (ofClause resolver options expand site clause) := by
  refine @rel_ofClause resolver options resolver options expand expand site clause
    (fun walk _ => Tells resolver Unspoilt walk) ?_ ?_ ?_ ?_ ?_ fun target _ => hexpand site target
  · intro f hissues hnested
    refine tells_pure (Findings.free_of_noted_eq_nil ?_)
    rw [Findings.noted, hissues, hnested]
    rfl
  · exact fun tag value walk _ h => h.behind_entry site tag value
  · exact tells_atHost site
  · exact tells_atMailHosts site
  · exact tells_atExplanation

theorem tells_follow (hexpand : ∀ site target, Tells resolver Unspoilt (expand site target))
    (site : Site) (raw : String) (statement : Statement) :
    Tells resolver (fun records => ∀ issue ∈ records.flatMap (·.issues), ¬issue.IsFailure)
      (follow resolver options expand site raw statement) := by
  have hclauses : Tells resolver
      (fun records : List PolicyRecord => ∀ issue ∈ records.flatMap (·.issues), ¬issue.IsFailure)
      (statement.clauses.mapM (ofClause resolver options expand site) >>= fun fs =>
        pure (record site raw statement (.join fs) :: (Findings.join fs).nested)) :=
    (Tells.mapM fun clause _ => tells_ofClause hexpand site clause).map fun fs => by
      rw [noted_follow]
      exact Findings.free_join.symm
  intro visited records visited' hyields
  obtain ⟨_, marked, hmark, hrest⟩ := yields_bind.mp hyields
  rw [follow, queries_bind hmark]
  exact hclauses marked records visited' hrest

theorem tells_followText (hexpand : ∀ site target, Tells resolver Unspoilt (expand site target))
    (site : Site) (raw : String) :
    Tells resolver Unspoilt (followText resolver options expand site raw) := by
  rw [followText]
  split
  · exact tells_pure (Findings.free_ofIssue.mpr id)
  · next statement _ => exact (tells_follow hexpand site raw statement).map fun records => Iff.rfl

/-- All questions of an expansion have answers exactly if it notes no failed lookup. -/
theorem tells_expand (levels : Nat) : ∀ site target,
    Tells resolver Unspoilt (Expansion.expand resolver options levels site target) := by
  induction levels with
  | zero =>
    intro site target
    rw [Expansion.expand]
    exact (tells_pure (Findings.free_ofIssue.mpr id)).unlessExpanded
  | succ levels ih =>
    intro site target
    rw [Expansion.expand, followName]
    refine (Tells.tolerating (faithful_policyTexts target) fun raws _ => ?_).unlessExpanded
    cases raws with
    | nil => exact tells_pure (Findings.free_ofIssue.mpr id)
    | cons raw raws =>
      exact (Tells.mapM fun raw _ => tells_followText ih _ raw).map fun _ => Findings.free_join.symm

/-! ## Results -/

variable {records : List PolicyRecord}

theorem answers_iff_of_root {domain raw : String} {statement : Statement}
    (h : (root resolver options domain raw statement).outcome = .ok records) :
    (∀ query ∈ (root resolver options domain raw statement).queries, resolver.Answers query) ↔
      ∀ record ∈ records, ∀ issue ∈ record.issues, ¬issue.IsFailure := by
  rw [root, map_eq_pure_bind] at h ⊢
  obtain ⟨⟨records', visited'⟩, hfollow, hpure⟩ := Traced.outcome_bind_eq_ok.mp h
  obtain rfl : records' = records := Except.ok.inj hpure
  rw [Traced.bind_of_ok hfollow, Traced.queries_pure, List.append_nil,
    tells_follow (tells_expand options.maxDepth) _ raw statement [] _ visited' hfollow]
  simp only [List.mem_flatMap, forall_exists_index, and_imp]
  exact ⟨fun h record hrecord issue => h issue record hrecord,
    fun h issue record hrecord => h record hrecord issue⟩

/-- All questions of a resolution have answers exactly if no record has a failed lookup among its
issues. -/
theorem answers_iff_of_resolve {domain : String}
    (h : (resolve resolver options domain).outcome = .ok records) :
    (∀ query ∈ (resolve resolver options domain).queries, resolver.Answers query) ↔
      ∀ record ∈ records, ∀ issue ∈ record.issues, ¬issue.IsFailure := by
  rw [resolve] at h ⊢
  obtain ⟨ascii, hascii, h⟩ := Traced.outcome_bind_eq_ok.mp h
  obtain ⟨raws, hraws, hrest⟩ := Traced.outcome_bind_eq_ok.mp h
  have hasked : ∀ query ∈ (resolver.policyTexts ascii).queries, resolver.Answers query :=
    (faithful_policyTexts ascii).answers (Traced.outcome_mapError_eq_ok.mp hraws)
  rw [Traced.bind_of_ok hascii, Traced.bind_of_ok hraws]
  have hnone : (Traced.ofExcept (normalizeDomain domain)).queries = [] := rfl
  have hmapped : ((resolver.policyTexts ascii).mapError PolicyError.lookup).queries =
    (resolver.policyTexts ascii).queries := rfl
  rw [hnone, List.nil_append, hmapped, List.forall_mem_append, and_iff_right hasked]
  cases raws with
  | nil =>
    obtain rfl := Except.ok.inj hrest
    exact iff_of_true (List.forall_mem_nil _) (List.forall_mem_nil _)
  | cons raw raws =>
    obtain ⟨statement, hraw, hroot⟩ := outcome_resolveText_eq_ok.mp hrest
    have hsame : (resolveText resolver options ascii raw).queries =
        (root resolver options ascii raw statement).queries := by
      rw [resolveText, hraw]
      rfl
    rw [hsame]
    exact answers_iff_of_root hroot

end Expansion

end SenderPolicy
