import Mathlib
import SenderPolicy.Dns.Zone
import SenderPolicy.Proofs.Expansion.Noted

/-!
# Results that no larger limit changes

If no record of a result says that it was cut off by the limit on the depth, then a larger limit
gives the same result, and asks the same questions on the way: `Final`, `final_of_maxDepth_le`.

Two runs are compared, one with fewer levels than the other, and the first one is known to yield
something complete (`Complete`).  What it yields is put together from what its parts yield, and each
of them is complete because nothing that is noted gets lost on the way up; so the second run does
the same part by part (`Repeats`).  The levels matter in one place alone, and there the first run
notes that it has none left.
-/

namespace SenderPolicy

namespace Expansion

variable {resolver : Resolver} {options : ResolveOptions} {α β : Type}

/-- The issue is a name that was too deep. -/
def IsCut : Issue → Prop
  | .depthExceeded _ _ => True
  | _ => False

/-- Nothing was cut off on the way to these findings. -/
abbrev Complete : Findings → Prop := Findings.Free IsCut

/-- Wherever the first walk yields something complete, the second one is the same walk. -/
def Repeats (complete : α → Prop) (walk walk' : Walk α) : Prop :=
  ∀ visited a visited', Yields walk visited a visited' → complete a →
    walk'.run visited = walk.run visited

theorem repeats_refl (complete : α → Prop) (walk : Walk α) : Repeats complete walk walk :=
  fun _ _ _ _ _ => rfl

/-- A walk in two parts is repeated if both parts are, where the first part of a complete whole is
complete. -/
theorem Repeats.bind {complete : α → Prop} {complete' : β → Prop} {walk walk' : Walk α}
    {next next' : α → Walk β} (h : Repeats complete walk walk')
    (hnext : ∀ a, Repeats complete' (next a) (next' a))
    (hpart : ∀ a visited b visited', Yields (next a) visited b visited' → complete' b →
      complete a) :
    Repeats complete' (walk >>= next) (walk' >>= next') := by
  intro visited b visited' hyields hb
  obtain ⟨a, between, ha, hrest⟩ := yields_bind.mp hyields
  have hfirst := h visited a between ha (hpart a between b visited' hrest hb)
  have hsecond := hnext a between b visited' hrest hb
  rw [StateT.run_bind, StateT.run_bind, hfirst, Traced.bind_of_ok ha, Traced.bind_of_ok ha]
  rw [hsecond]

theorem Repeats.map {complete : α → Prop} {complete' : β → Prop} {walk walk' : Walk α} {g : α → β}
    (h : Repeats complete walk walk') (hg : ∀ a, complete' (g a) → complete a) :
    Repeats complete' (walk >>= fun a => pure (g a)) (walk' >>= fun a => pure (g a)) := by
  refine h.bind (fun a => repeats_refl _ _) fun a visited b visited' hyields hb => hg a ?_
  rwa [(yields_pure.mp hyields).1] at hb

theorem Repeats.mapM {complete : β → Prop} {f f' : α → Walk β} {as : List α}
    (h : ∀ a ∈ as, Repeats complete (f a) (f' a)) :
    Repeats (fun bs => ∀ b ∈ bs, complete b) (as.mapM f) (as.mapM f') := by
  induction as with
  | nil =>
    rw [List.mapM_nil, List.mapM_nil]
    exact repeats_refl _ _
  | cons a as ih =>
    rw [List.mapM_cons, List.mapM_cons]
    have hrow := ih fun a ha => h a (List.mem_cons_of_mem _ ha)
    refine (h a (List.mem_cons_self ..)).bind (fun b => hrow.map fun bs hbs => ?_) ?_
    · exact (List.forall_mem_cons.mp hbs).2
    · intro b visited bs visited' hyields hbs
      obtain ⟨rest, between, -, hpure⟩ := yields_bind.mp hyields
      rw [(yields_pure.mp hpure).1] at hbs
      exact (List.forall_mem_cons.mp hbs).1

theorem Repeats.tolerating {complete : Findings → Prop} {policy : FailurePolicy} {target : String}
    {lookup : Traced LookupError α} {use use' : α → Walk Findings}
    (h : ∀ a, Repeats complete (use a) (use' a)) :
    Repeats complete (tolerating policy target lookup use)
      (tolerating policy target lookup use') := by
  intro visited f visited' hyields hf
  rw [run_tolerating, run_tolerating]
  rcases yields_tolerating.mp hyields with ⟨a, ha, hyields⟩ | ⟨failure, hfailure, -⟩
  · rw [ha]
    dsimp only
    rw [h a visited f visited' hyields hf]
  · rw [hfailure]

theorem Repeats.unlessExpanded {complete : Findings → Prop} {target : String}
    {next next' : Walk Findings} (h : Repeats complete next next') :
    Repeats complete (unlessExpanded target next) (unlessExpanded target next') := by
  intro visited f visited' hyields hf
  rw [run_unlessExpanded, run_unlessExpanded]
  rcases yields_unlessExpanded.mp hyields with ⟨hmem, -⟩ | ⟨hnew, hyields⟩
  · rw [if_pos hmem, if_pos hmem]
  · rw [if_neg hnew, if_neg hnew]
    exact h visited f visited' hyields hf

/-! ## The expansion -/

variable {expand expand' : Site → String → Walk Findings} (limit : Nat)

theorem repeats_ofClause (hexpand : ∀ site target,
    Repeats Complete (expand site target) (expand' site target)) (site : Site) (clause : Clause) :
    Repeats Complete (ofClause resolver options expand site clause)
      (ofClause resolver { options with maxDepth := limit } expand' site clause) := by
  refine rel_ofClause ?_ ?_ ?_ ?_ ?_ fun target _ => hexpand site target
  · exact fun f _ _ => repeats_refl _ _
  · exact fun tag value walk walk' h => h.map fun f hf => (Findings.free_append.mp hf).2
  -- the lookups do not depend on the limit
  · exact fun token mask host => repeats_refl _ _
  · exact fun token mask domain => repeats_refl _ _
  · exact fun target => repeats_refl _ _

theorem repeats_follow (hexpand : ∀ site target,
    Repeats Complete (expand site target) (expand' site target)) (site : Site) (raw : String)
    (statement : Statement) :
    Repeats (fun records => ∀ issue ∈ records.flatMap (·.issues), ¬IsCut issue)
      (follow resolver options expand site raw statement)
      (follow resolver { options with maxDepth := limit } expand' site raw statement) := by
  have hclauses : Repeats (fun fs => ∀ f ∈ fs, Complete f)
      (statement.clauses.mapM (ofClause resolver options expand site))
      (statement.clauses.mapM
        (ofClause resolver { options with maxDepth := limit } expand' site)) :=
    Repeats.mapM fun clause _ => repeats_ofClause limit hexpand site clause
  have hmark : Repeats (fun _ => True) (modify (Name.key site.source :: ·) : Walk PUnit)
      (modify (Name.key site.source :: ·)) := repeats_refl _ _
  refine hmark.bind (fun _ => hclauses.map fun fs hfs => ?_) fun _ _ _ _ _ _ => trivial
  rw [noted_follow] at hfs
  exact Findings.free_join.mp hfs

theorem repeats_followText (hexpand : ∀ site target,
    Repeats Complete (expand site target) (expand' site target)) (site : Site) (raw : String) :
    Repeats Complete (followText resolver options expand site raw)
      (followText resolver { options with maxDepth := limit } expand' site raw) := by
  rw [followText, followText]
  split
  · exact repeats_refl _ _
  · next statement _ =>
    exact (repeats_follow limit hexpand site raw statement).map fun records hrecords => hrecords

/-- A name that was expanded before is a cycle, whatever the levels. -/
theorem run_expand_of_mem {target : String} {visited : List String}
    (hmem : Name.key target ∈ visited) (options : ResolveOptions) (levels : Nat) (site : Site) :
    (Expansion.expand resolver options levels site target).run visited =
      ⟨.ok (.ofIssue (.cycleDetected target), visited), []⟩ := by
  cases levels <;>
  · rw [Expansion.expand, run_unlessExpanded, if_pos hmem]
    rfl

/-- With more levels an expansion that was complete is repeated.  The induction is on the smaller
number of levels; without any, a name is noted as a cycle, or as too deep. -/
theorem repeats_expand (levels : Nat) :
    ∀ {levels' : Nat}, levels ≤ levels' → ∀ site target,
      Repeats Complete (Expansion.expand resolver options levels site target)
        (Expansion.expand resolver { options with maxDepth := limit } levels' site target) := by
  induction levels with
  | zero =>
    intro levels' _ site target visited f visited' hyields hf
    rw [Expansion.expand] at hyields
    rcases yields_unlessExpanded.mp hyields with ⟨hmem, -⟩ | ⟨-, hpure⟩
    · rw [run_expand_of_mem hmem, run_expand_of_mem hmem]
    · obtain ⟨rfl, -⟩ := yields_pure.mp hpure
      exact absurd trivial (Findings.free_ofIssue.mp hf)
  | succ levels ih =>
    intro levels' hlevels site target
    obtain _ | levels' := levels'
    · exact absurd hlevels (Nat.not_succ_le_zero levels)
    have hbelow := ih (Nat.le_of_succ_le_succ hlevels)
    rw [Expansion.expand, Expansion.expand, followName, followName]
    refine (Repeats.tolerating fun raws => ?_).unlessExpanded
    cases raws with
    | nil => exact repeats_refl _ _
    | cons raw raws =>
      have htexts : Repeats (fun fs => ∀ f ∈ fs, Complete f)
          ((raw :: raws).mapM (followText resolver options
            (Expansion.expand resolver options levels) ⟨site.domain, target, site.depth + 1⟩))
          ((raw :: raws).mapM (followText resolver { options with maxDepth := limit }
            (Expansion.expand resolver { options with maxDepth := limit } levels')
            ⟨site.domain, target, site.depth + 1⟩)) :=
        Repeats.mapM fun text _ => repeats_followText limit hbelow _ text
      exact htexts.map fun fs hfs => Findings.free_join.mp hfs

/-! ## Results -/

/-- If the first run has a result on which nothing is cut off, then the second run is the same. -/
def Final (run run' : Traced PolicyError (List PolicyRecord)) : Prop :=
  ∀ records, run.outcome = .ok records →
    (∀ record ∈ records, ∀ name depth, .depthExceeded name depth ∉ record.issues) → run' = run

variable {limit}

theorem final_resolveText (hlimit : options.maxDepth ≤ limit) (ascii raw : String) :
    Final (resolveText resolver options ascii raw)
      (resolveText resolver { options with maxDepth := limit } ascii raw) := by
  intro records h hcomplete
  obtain ⟨statement, hraw, hroot⟩ := outcome_resolveText_eq_ok.mp h
  rw [resolveText, resolveText, hraw]
  dsimp only
  rw [root, map_eq_pure_bind] at hroot
  obtain ⟨⟨records', visited'⟩, hfollow, hpure⟩ := Traced.outcome_bind_eq_ok.mp hroot
  obtain rfl : records' = records := Except.ok.inj hpure
  have hnone : ∀ issue ∈ records'.flatMap (·.issues), ¬IsCut issue := by
    intro issue hissue hcut
    obtain ⟨record, hrecord, hissue⟩ := List.mem_flatMap.mp hissue
    cases issue with
    | depthExceeded name depth => exact hcomplete record hrecord name depth hissue
    | _ => exact hcut
  have hrun := repeats_follow limit (repeats_expand limit options.maxDepth hlimit) _ raw statement
    [] records' visited' hfollow hnone
  rw [root, root, hrun]

/-- A result on which no record says that something was too deep is final: with a larger limit the
same records are found, and the same questions are asked. -/
theorem final_of_maxDepth_le (resolver : Resolver) (options : ResolveOptions) {limit : Nat}
    (hlimit : options.maxDepth ≤ limit) (domain : String) :
    (∀ raw, Final (parseRecord resolver options domain raw)
      (parseRecord resolver { options with maxDepth := limit } domain raw)) ∧
    Final (resolve resolver options domain)
      (resolve resolver { options with maxDepth := limit } domain) := by
  constructor
  · intro raw records h hcomplete
    obtain ⟨ascii, hascii, htext⟩ := Traced.outcome_bind_eq_ok.mp h
    have hsame := final_resolveText hlimit ascii raw records htext hcomplete
    rw [parseRecord, parseRecord, Traced.bind_of_ok hascii, Traced.bind_of_ok hascii, hsame]
  · intro records h hcomplete
    obtain ⟨ascii, hascii, h⟩ := Traced.outcome_bind_eq_ok.mp h
    obtain ⟨raws, hraws, htext⟩ := Traced.outcome_bind_eq_ok.mp h
    rw [resolve, resolve, Traced.bind_of_ok hascii, Traced.bind_of_ok hascii,
      Traced.bind_of_ok hraws, Traced.bind_of_ok hraws]
    cases raws with
    | nil => rfl
    | cons raw raws =>
      have hsame := final_resolveText hlimit ascii raw records htext hcomplete
      dsimp only
      rw [hsame]

/-- A name that the smaller limit just reaches. -/
theorem final_of_zone :
    let resolver := Zone.resolver [⟨"b", .txt, .ok [.text "v=spf1 include:a ~all"]⟩]
    let options : ResolveOptions := { maxDepth := 1 }
    let records : List PolicyRecord := [
      ⟨"a", "a", "v=spf1 include:b -all", "spf1", 0, .fail, [⟨"a", "a", .inclusion, "b"⟩], [], [],
        none, []⟩,
      ⟨"a", "b", "v=spf1 include:a ~all", "spf1", 1, .softFail, [⟨"a", "b", .inclusion, "a"⟩], [],
        [], none, [.cycleDetected "a"]⟩]
    options.maxDepth ≤ 5 ∧
      (parseRecord resolver options "a" "v=spf1 include:b -all").outcome = .ok records ∧
      parseRecord resolver { options with maxDepth := 5 } "a" "v=spf1 include:b -all" =
        parseRecord resolver options "a" "v=spf1 include:b -all" := by
  intro resolver options records
  have hlimit : options.maxDepth ≤ 5 := by decide
  have hrecords : (parseRecord resolver options "a" "v=spf1 include:b -all").outcome =
      .ok records := by
    refine outcome_parseRecord_eq_ok.mpr ⟨"a", ⟨"spf1", .fail, [⟨"v=spf1", .version "spf1"⟩,
      ⟨"include:b", .inclusion "b"⟩]⟩, rfl, by decide +kernel, by decide +kernel⟩
  have hcomplete : ∀ record ∈ records, ∀ name depth,
      .depthExceeded name depth ∉ record.issues := by
    simp [records]
  exact ⟨hlimit, hrecords, (final_of_maxDepth_le resolver options hlimit "a").1 _ records hrecords
    hcomplete⟩

end Expansion

end SenderPolicy
