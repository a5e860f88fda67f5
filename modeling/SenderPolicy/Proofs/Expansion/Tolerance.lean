import SenderPolicy.Proofs.Expansion.Adequacy

/-!
# Where failures are tolerated

Under the tolerant policy no lookup ends a walk, so every walk is `Total`, level by level, and a
text at hand has a result as soon as the domain is accepted and the text is well formed
(`exists_outcome_parseRecord`).  Without this a claim about the records of a result would hold of
a resolution that never has any.
-/

namespace SenderPolicy

namespace Expansion

variable {resolver : Resolver} {options : ResolveOptions}

theorem total_atHost (hpolicy : options.onFailure = .tolerate) (site : Site) (token : String)
    (mask : HostMask) (host : String) : Total (atHost resolver options site token mask host) := by
  rw [atHost, hpolicy]
  exact Total.tolerating fun addresses => total_pure _

theorem total_atMailHosts (hpolicy : options.onFailure = .tolerate) (site : Site) (token : String)
    (mask : HostMask) (domain : String) :
    Total (atMailHosts resolver options site token mask domain) := by
  rw [atMailHosts, hpolicy]
  refine Total.tolerating fun hosts => ?_
  exact (Total.mapM hosts (total_atHost hpolicy site token mask)).bind fun fs => total_pure _

theorem total_atExplanation (hpolicy : options.onFailure = .tolerate) (target : String) :
    Total (atExplanation resolver options target) := by
  rw [atExplanation]
  split
  · rw [hpolicy]
    exact Total.tolerating fun texts => total_pure _
  · exact total_pure _

theorem total_ofClause (hpolicy : options.onFailure = .tolerate)
    {expand : Site → String → Walk Findings} (hexpand : ∀ site target, Total (expand site target))
    (site : Site) (clause : Clause) : Total (ofClause resolver options expand site clause) := by
  refine @rel_ofClause resolver options resolver options expand expand site clause
    (fun walk _ => Total walk) ?_ ?_ ?_ ?_ ?_ fun target _ => hexpand site target
  · exact fun f _ _ => total_pure f
  · exact fun tag value walk _ h => h.bind fun f => total_pure _
  · exact total_atHost hpolicy site
  · exact total_atMailHosts hpolicy site
  · exact total_atExplanation hpolicy

theorem total_follow (hpolicy : options.onFailure = .tolerate)
    {expand : Site → String → Walk Findings} (hexpand : ∀ site target, Total (expand site target))
    (site : Site) (raw : String) (statement : Statement) :
    Total (follow resolver options expand site raw statement) := by
  have hmark : Total (modify (Name.key site.source :: ·) : Walk PUnit) :=
    fun visited => ⟨⟨⟩, _, yields_modify.mpr rfl⟩
  have hclauses : Total (statement.clauses.mapM (ofClause resolver options expand site)) :=
    Total.mapM statement.clauses (total_ofClause hpolicy hexpand site)
  exact hmark.bind fun _ => hclauses.bind fun fs => total_pure _

theorem total_followText (hpolicy : options.onFailure = .tolerate)
    {expand : Site → String → Walk Findings} (hexpand : ∀ site target, Total (expand site target))
    (site : Site) (raw : String) : Total (followText resolver options expand site raw) := by
  rw [followText]
  split
  · exact total_pure _
  · next statement _ =>
    exact (total_follow hpolicy hexpand site raw statement).bind fun records => total_pure _

/-- Names are expanded to whatever is left of the levels. -/
theorem total_expand (hpolicy : options.onFailure = .tolerate) (levels : Nat) :
    ∀ site target, Total (expand resolver options levels site target) := by
  induction levels with
  | zero =>
    intro site target
    rw [expand]
    exact (total_pure _).unlessExpanded
  | succ levels ih =>
    intro site target
    rw [expand, followName, hpolicy]
    refine (Total.tolerating fun raws => ?_).unlessExpanded
    split
    · exact total_pure _
    · exact (Total.mapM _ (total_followText hpolicy ih _)).bind fun fs => total_pure _

/-- An accepted domain and a well-formed text have a result. -/
theorem exists_outcome_parseRecord (hpolicy : options.onFailure = .tolerate)
    {domain ascii raw : String} {statement : Statement}
    (hdomain : normalizeDomain domain = .ok ascii) (hraw : Statement.parse raw = .ok statement) :
    ∃ records, (parseRecord resolver options domain raw).outcome = .ok records := by
  have htotal : Total (follow resolver options (expand resolver options options.maxDepth)
      ⟨ascii, ascii, 0⟩ raw statement) :=
    total_follow hpolicy (total_expand hpolicy options.maxDepth) ⟨ascii, ascii, 0⟩ raw statement
  obtain ⟨records, visited', hfollow⟩ := htotal []
  refine ⟨records, outcome_parseRecord_eq_ok.mpr ⟨ascii, statement, hdomain, hraw, ?_⟩⟩
  rw [root, map_eq_pure_bind]
  exact Traced.outcome_bind_eq_ok.mpr ⟨(records, visited'), hfollow, rfl⟩

/-- The result is that of a course over the clauses of the text. -/
theorem exists_course_of_tolerate (resolver : Resolver) (options : ResolveOptions)
    (hpolicy : options.onFailure = .tolerate) {domain ascii raw : String} {statement : Statement}
    (hdomain : normalizeDomain domain = .ok ascii) (hraw : Statement.parse raw = .ok statement) :
    ∃ outcomes below visited',
      Course resolver options options.maxDepth
        (.clauses ⟨ascii, ascii, 0⟩ [] 0 statement.clauses) [Name.key ascii] outcomes below
        visited' ∧
      (parseRecord resolver options domain raw).outcome = .ok
        (recordOf resolver options ⟨ascii, ascii, 0⟩ raw statement outcomes ::
          below.map (·.record)) := by
  obtain ⟨records, hrecords⟩ : ∃ records,
      (parseRecord resolver options domain raw).outcome = .ok records :=
    exists_outcome_parseRecord hpolicy hdomain hraw
  obtain ⟨_, _, hascii, hparse, hroot⟩ := outcome_parseRecord_eq_ok.mp hrecords
  obtain rfl := Except.ok.inj (hdomain.symm.trans hascii)
  obtain rfl := Except.ok.inj (hraw.symm.trans hparse)
  obtain ⟨outcomes, below, visited', hcourse, rfl⟩ := exists_course_of_root hroot
  exact ⟨outcomes, below, visited', hcourse, hrecords⟩

end Expansion

end SenderPolicy
