import Mathlib
import SenderPolicy.Dns.Zone
import SenderPolicy.Proofs.Expansion.Abort
import SenderPolicy.Proofs.Expansion.Accounting
import SenderPolicy.Proofs.Expansion.Coverage

/-!
# How deep a resolution goes

`expand` recurses on the levels that are left, so it ends by its form.  A program has no such
number: it checks the depth in each call, and calls itself.  `expandOnce` is one call of that kind,
and here it is shown that so many of them inside each other are as good as any more.

* `agreeOn_iterate`: calls that nest deeper than there is room for are never made.
* `Course.depth_le`: no record is deeper than there is room.
* `Brings.length_le`: there are no more records than well-formed policies of the names they come
  from.

What room there is, is left open (`Measures`): it has to go down with every name that is expanded,
and must not go up as more keys are added.  The levels that are left are such a number, and so is
the number of names that have a well-formed policy and are not expanded yet; it does not matter for
that one that names whose policies are all malformed are asked for again and again, since no call
goes deeper from there.

Both statements about room are inductions in which the same keys go round, one over the calls that
are spelled out and one over courses.  The first one is about whole walks, failing ones included
(`AgreeOn`).
-/

namespace SenderPolicy

open Statement

namespace Expansion

/-! ## The recursion -/

/-- One call of the expansion, where the depth is checked against the limit and `nested` is called
for the names that the texts lead to. -/
def expandOnce (resolver : Resolver) (options : ResolveOptions)
    (nested : Site → String → Walk Findings) (site : Site) (target : String) : Walk Findings :=
  unlessExpanded target
    (if options.maxDepth < site.depth + 1 then
      return .ofIssue (.depthExceeded target (site.depth + 1))
    else followName resolver options nested ⟨site.domain, target, site.depth + 1⟩)

variable {resolver : Resolver} {options : ResolveOptions} {α β : Type}
  {P Q : List String → Prop}

/-- The walks do the same on every set of keys with the property, and take no key away. -/
def AgreeOn (P : List String → Prop) (walk walk' : Walk α) : Prop :=
  ∀ visited, P visited → walk.run visited = walk'.run visited ∧
    ∀ a visited', Yields walk visited a visited' → visited ⊆ visited'

/-- The property of a set of keys is kept when keys are added. -/
def Grows (P : List String → Prop) : Prop :=
  ∀ ⦃visited visited'⦄, visited ⊆ visited' → P visited → P visited'

theorem Grows.cons (hP : Grows P) (key : String) : Grows fun visited => P (key :: visited) :=
  fun _ _ hsub => hP (List.cons_subset_cons key hsub)

/-- A walk that keeps the keys as they are agrees with itself. -/
theorem agreeOn_of_keeps {walk : Walk α}
    (h : ∀ {visited a visited'}, Yields walk visited a visited' → visited' = visited) :
    AgreeOn P walk walk := by
  refine fun visited _ => ⟨rfl, fun a visited' hyields => ?_⟩
  rw [h hyields]
  exact List.Subset.refl _

theorem agreeOn_pure (a : α) : AgreeOn P (pure a) (pure a) :=
  agreeOn_of_keeps fun h => (yields_pure.mp h).2

theorem AgreeOn.weaken {walk walk' : Walk α} (h : AgreeOn Q walk walk')
    (hweak : ∀ visited, P visited → Q visited) : AgreeOn P walk walk' :=
  fun visited hvisited => h visited (hweak visited hvisited)

theorem AgreeOn.bind {walk walk' : Walk α} {next next' : α → Walk β} (hP : Grows P)
    (h : AgreeOn P walk walk') (hnext : ∀ a, AgreeOn P (next a) (next' a)) :
    AgreeOn P (walk >>= next) (walk' >>= next') := by
  intro visited hvisited
  obtain ⟨hrun, hgrows⟩ := h visited hvisited
  constructor
  · rw [StateT.run_bind, StateT.run_bind, ← hrun]
    cases hout : (walk.run visited).outcome with
    | error failure => rw [Traced.bind_of_error hout, Traced.bind_of_error hout]
    | ok pair =>
      obtain ⟨a, between⟩ := pair
      rw [Traced.bind_of_ok hout, Traced.bind_of_ok hout]
      rw [(hnext a between (hP (hgrows a between hout) hvisited)).1]
  · intro b visited' hyields
    obtain ⟨a, between, ha, hb⟩ := yields_bind.mp hyields
    have hsub := hgrows a between ha
    exact List.Subset.trans hsub ((hnext a between (hP hsub hvisited)).2 b visited' hb)

theorem AgreeOn.mapM {f f' : α → Walk β} (hP : Grows P) {as : List α}
    (h : ∀ a ∈ as, AgreeOn P (f a) (f' a)) : AgreeOn P (as.mapM f) (as.mapM f') := by
  induction as with
  | nil =>
    rw [List.mapM_nil, List.mapM_nil]
    exact agreeOn_pure []
  | cons a as ih =>
    rw [List.mapM_cons, List.mapM_cons]
    have hrest := ih fun a ha => h a (List.mem_cons_of_mem _ ha)
    exact (h a (List.mem_cons_self ..)).bind hP fun b => hrest.bind hP fun bs => agreeOn_pure _

/-- A lookup asks the same, and changes no keys. -/
theorem AgreeOn.tolerating {policy : FailurePolicy} {target : String}
    {lookup : Traced LookupError α} {use use' : α → Walk Findings}
    (h : ∀ a, lookup.outcome = .ok a → AgreeOn P (use a) (use' a)) :
    AgreeOn P (tolerating policy target lookup use) (tolerating policy target lookup use') := by
  intro visited hvisited
  constructor
  · rw [run_tolerating, run_tolerating]
    cases hlookup : lookup.outcome with
    | ok a =>
      dsimp only
      rw [(h a hlookup visited hvisited).1]
    | error failure => rfl
  · intro f visited' hyields
    rcases yields_tolerating.mp hyields with ⟨a, ha, hf⟩ | ⟨failure, -, -, -, rfl⟩
    · exact (h a ha visited hvisited).2 f visited' hf
    · exact List.Subset.refl _

/-- What is done about a name matters only where it is new. -/
theorem AgreeOn.unlessExpanded {target : String} {next next' : Walk Findings}
    (h : AgreeOn (fun visited => P visited ∧ Name.key target ∉ visited) next next') :
    AgreeOn P (unlessExpanded target next) (unlessExpanded target next') := by
  intro visited hvisited
  constructor
  · rw [run_unlessExpanded, run_unlessExpanded]
    split
    · rfl
    · next hnew => exact (h visited ⟨hvisited, hnew⟩).1
  · intro f visited' hyields
    rcases yields_unlessExpanded.mp hyields with ⟨-, -, rfl⟩ | ⟨hnew, hf⟩
    · exact List.Subset.refl _
    · exact (h visited ⟨hvisited, hnew⟩).2 f visited' hf

variable {expand expand' : Site → String → Walk Findings} {site : Site}

/-- What a clause looks up itself keeps the keys as they are. -/
theorem agreeOn_ofClause (hP : Grows P)
    (h : ∀ target, AgreeOn P (expand site target) (expand' site target)) (clause : Clause) :
    AgreeOn P (ofClause resolver options expand site clause)
      (ofClause resolver options expand' site clause) := by
  refine rel_ofClause ?_ ?_ ?_ ?_ ?_ fun target _ => h target
  · exact fun f _ _ => agreeOn_pure f
  · exact fun tag value walk walk' h => h.bind hP fun f => agreeOn_pure _
  · exact fun token mask host => agreeOn_of_keeps fun h => h.eq_ownOfHost.2
  · exact fun token mask domain => agreeOn_of_keeps fun h => h.eq_ownOfMailHosts.2
  · exact fun target => agreeOn_of_keeps fun h => h.eq_ownOfExplanation.2

/-- The clauses of a text are followed with the key of its name among the others. -/
theorem agreeOn_follow (hP : Grows P)
    (h : ∀ target, AgreeOn P (expand site target) (expand' site target)) (raw : String)
    (statement : Statement) :
    AgreeOn (fun visited => P (Name.key site.source :: visited))
      (follow resolver options expand site raw statement)
      (follow resolver options expand' site raw statement) := by
  intro visited hvisited
  have hclauses : AgreeOn P
      (statement.clauses.mapM (ofClause resolver options expand site) >>= fun fs =>
        return record site raw statement (.join fs) :: (Findings.join fs).nested)
      (statement.clauses.mapM (ofClause resolver options expand' site) >>= fun fs =>
        return record site raw statement (.join fs) :: (Findings.join fs).nested) :=
    (AgreeOn.mapM hP fun clause _ => agreeOn_ofClause hP h clause).bind hP fun fs => agreeOn_pure _
  obtain ⟨hrun, hgrows⟩ := hclauses _ hvisited
  constructor
  · rw [follow, follow, StateT.run_bind, StateT.run_bind, StateT.run_modify, pure_bind, pure_bind]
    exact hrun
  · intro records visited' hyields
    obtain ⟨_, marked, hmark, hrest⟩ := yields_bind.mp hyields
    obtain rfl := yields_modify.mp hmark
    exact List.Subset.trans (List.subset_cons_self _ _) (hgrows records visited' hrest)

theorem agreeOn_followText (hP : Grows P)
    (h : ∀ target, AgreeOn P (expand site target) (expand' site target)) {raw : String}
    (hQ : WellFormed raw → ∀ visited, Q visited → P (Name.key site.source :: visited)) :
    AgreeOn Q (followText resolver options expand site raw)
      (followText resolver options expand' site raw) := by
  rw [followText, followText]
  cases hraw : Statement.parse raw with
  | error reason => exact agreeOn_pure _
  | ok statement =>
    have hwf : WellFormed raw := exists_parse_eq_ok_iff.mp ⟨statement, hraw⟩
    have hfollow : AgreeOn (fun visited => P (Name.key site.source :: visited))
        (follow resolver options expand site raw statement)
        (follow resolver options expand' site raw statement) := agreeOn_follow hP h raw statement
    exact (hfollow.bind (hP.cons _) fun records => agreeOn_pure _).weaken (hQ hwf)

/-! ## What is left to be expanded -/

/-- A number that goes down with every name that is expanded, and does not go up in between.  It may
depend on how deep the name is and on what has been expanded before. -/
structure Measures (resolver : Resolver) (options : ResolveOptions)
    (room : Nat → List String → Nat) : Prop where
  mono : ∀ {depth visited visited'}, visited ⊆ visited' → room depth visited' ≤ room depth visited
  lt : ∀ {depth visited target}, depth < options.maxDepth → Name.key target ∉ visited →
    resolver.wellFormedAt target ≠ [] →
    room (depth + 1) (Name.key target :: visited) < room depth visited

theorem measures_maxDepth (resolver : Resolver) (options : ResolveOptions) :
    Measures resolver options fun depth _ => options.maxDepth - depth where
  mono _ := Nat.le_refl _
  lt hdepth _ _ := by omega

theorem measures_unexpanded {names : Finset String} (options : ResolveOptions)
    (hnames : ∀ name, resolver.wellFormedAt name ≠ [] → Name.key name ∈ names) :
    Measures resolver options fun _ visited => unexpanded names visited where
  mono := unexpanded_le_of_subset
  lt _ hnew hsome := unexpanded_cons_lt (hnames _ hsome) hnew

variable {room : Nat → List String → Nat}

theorem Measures.grows (h : Measures resolver options room) (depth bound : Nat) :
    Grows fun visited => room depth visited < bound :=
  fun _ _ hsub hroom => Nat.lt_of_le_of_lt (h.mono hsub) hroom

theorem Measures.grows_behind (h : Measures resolver options room) (depth bound : Nat)
    (name : String) : Grows fun visited =>
      resolver.wellFormedAt name ≠ [] → room depth (Name.key name :: visited) < bound :=
  fun _ _ hsub hless hsome => (h.grows depth bound).cons _ hsub (hless hsome)

/-- The texts of a name are followed in the room that is left behind its key, if one of them is well
formed. -/
theorem agreeOn_texts (hroom : Measures resolver options room) {calls : Nat} {raws : List String}
    (hraws : (resolver.policyTexts site.source).outcome = .ok raws)
    (h : ∀ target, AgreeOn (fun visited => room site.depth visited < calls) (expand site target)
      (expand' site target)) :
    AgreeOn (fun visited => resolver.wellFormedAt site.source ≠ [] →
        room site.depth (Name.key site.source :: visited) < calls)
      (raws.mapM (followText resolver options expand site))
      (raws.mapM (followText resolver options expand' site)) := by
  refine AgreeOn.mapM (hroom.grows_behind _ _ _) fun raw hmem => ?_
  refine agreeOn_followText (hroom.grows _ _) h fun hwf visited hless => hless ?_
  rw [Resolver.wellFormedAt_of_ok hraws]
  exact List.ne_nil_of_mem (List.mem_filter.mpr ⟨hmem, by simpa using hwf⟩)

/-- Calls that nest deeper than there is room for are never made: whatever stands in for them, the
expansion is the same.  The induction is on the calls that are spelled out, and each of them expands
a name, so that there is less room for the next one. -/
theorem agreeOn_iterate (hroom : Measures resolver options room)
    (bottom : Site → String → Walk Findings) (calls : Nat) :
    ∀ site target, AgreeOn (fun visited => room site.depth visited < calls)
      ((expandOnce resolver options)^[calls] bottom site target)
      (Expansion.expand resolver options (options.maxDepth - site.depth) site target) := by
  induction calls with
  | zero => exact fun site target visited hnone => absurd hnone (Nat.not_lt_zero _)
  | succ calls ih =>
    intro site target
    rw [Function.iterate_succ_apply', expandOnce]
    by_cases hdepth : options.maxDepth < site.depth + 1
    · have hnone : options.maxDepth - site.depth = 0 := by omega
      rw [if_pos hdepth, hnone, Expansion.expand]
      exact (agreeOn_pure _).unlessExpanded
    · have hone : options.maxDepth - site.depth = options.maxDepth - (site.depth + 1) + 1 := by
        omega
      rw [if_neg hdepth, hone, Expansion.expand, followName, followName]
      refine (AgreeOn.tolerating fun raws hraws => ?_).unlessExpanded
      cases raws with
      | nil => exact agreeOn_pure _
      | cons raw raws =>
        have htexts := agreeOn_texts hroom hraws (ih ⟨site.domain, target, site.depth + 1⟩)
        have hgrows := hroom.grows_behind (site.depth + 1) calls target
        refine (htexts.bind hgrows fun fs => agreeOn_pure _).weaken ?_
        rintro visited ⟨hless, hnew⟩ hsome
        have hstep : room (site.depth + 1) (Name.key target :: visited) < room site.depth visited :=
          hroom.lt (by omega) hnew hsome
        exact Nat.lt_of_lt_of_le hstep (Nat.le_of_lt_succ hless)

/-! ## The depth of records -/

/-- Records are made for well-formed texts only. -/
theorem Course.exists_wellFormed {levels : Nat} {trail : List Step} {index : Nat}
    {raws : List String} :
    ∀ {text : Nat} {visited visited' : List String} {outcomes : List (Option Outcome)}
      {visits : List Visit},
      Course resolver options levels (.texts site trail index text raws) visited outcomes visits
        visited' → visits ≠ [] → ∃ raw ∈ raws, WellFormed raw := by
  induction raws with
  | nil =>
    intro text visited visited' outcomes visits h hvisits
    cases h
    exact absurd rfl hvisits
  | cons raw raws ih =>
    intro text visited visited' outcomes visits h hvisits
    cases h with
    | malformed _ hrest =>
      obtain ⟨raw', hraw', hwf⟩ := ih hrest hvisits
      exact ⟨raw', List.mem_cons_of_mem _ hraw', hwf⟩
    | followed hraw _ _ =>
      exact ⟨raw, List.mem_cons_self .., exists_parse_eq_ok_iff.mp ⟨_, hraw⟩⟩

variable {levels : Nat} {task : Task} {visited visited' : List String}
  {outcomes : List (Option Outcome)} {visits : List Visit}

/-- No record is deeper below the task than there is room. -/
theorem Course.depth_le (hroom : Measures resolver options room)
    (h : Course resolver options levels task visited outcomes visits visited') :
    levels + task.site.depth = options.maxDepth →
      ∀ visit ∈ visits, visit.record.depth ≤
        task.site.depth + room task.site.depth (task.expanded visited) := by
  induction h with
  | cycle | tooDeep | failed | missing | noText | noClause => exact fun _ => List.forall_mem_nil _
  | @answered levels site _ _ target visited _ raws visits hnew hraws _ htexts ih =>
    intro hlevels visit hvisit
    have hsome : resolver.wellFormedAt target ≠ [] := by
      obtain ⟨raw, hraw, hwf⟩ := htexts.exists_wellFormed (List.ne_nil_of_mem hvisit)
      rw [Resolver.wellFormedAt_of_ok hraws]
      exact List.ne_nil_of_mem (List.mem_filter.mpr ⟨hraw, by simpa using hwf⟩)
    simp only [Task.site] at hlevels
    have hdepth := ih (by simp only [Task.site]; omega) visit hvisit
    have hless : room (site.depth + 1) (Name.key target :: visited) < room site.depth visited :=
      hroom.lt (by omega) hnew hsome
    simp only [Task.site, Task.expanded] at hdepth ⊢
    omega
  | malformed _ _ ih => exact ih
  | @followed _ site _ _ _ _ _ _ visited between _ _ _ _ _ hclauses _ ihclauses ihrest =>
    intro hlevels visit hvisit
    have hmono : room site.depth (Name.key site.source :: between) ≤
        room site.depth (Name.key site.source :: visited) :=
      hroom.mono (List.cons_subset_cons _ fun _ hkey =>
        hclauses.mem_visited_of_mem (List.mem_cons_of_mem _ hkey))
    rcases List.mem_append.mp hvisit with hvisit | hvisit
    · rcases List.mem_cons.mp hvisit with rfl | hvisit
      · exact Nat.le_add_right _ _
      · exact ihclauses hlevels visit hvisit
    · exact Nat.le_trans (ihrest hlevels visit hvisit) (Nat.add_le_add_left hmono _)
  | plain _ _ ih => exact ih
  | @leads _ site _ _ _ _ _ visited between _ _ _ _ _ _ hname _ ihname ihrest =>
    intro hlevels visit hvisit
    have hmono : room site.depth between ≤ room site.depth visited :=
      hroom.mono fun _ hkey => hname.mem_visited_of_mem hkey
    rcases List.mem_append.mp hvisit with hvisit | hvisit
    · exact ihname hlevels visit hvisit
    · exact Nat.le_trans (ihrest hlevels visit hvisit) (Nat.add_le_add_left hmono _)

theorem Resolved.depth_le (hroom : Measures resolver options room)
    (h : Resolved resolver options visits) {bound : Nat} (hbound : ∀ key, room 0 [key] ≤ bound) :
    ∀ visit ∈ visits, visit.record.depth ≤ bound := by
  cases h with
  | nothing => exact List.forall_mem_nil _
  | @root domain raw statement outcomes below visited' _ hclauses =>
    refine List.forall_mem_cons.mpr ⟨Nat.zero_le _, fun visit hvisit => ?_⟩
    have hdepth := hclauses.depth_le hroom (Nat.add_zero _) visit hvisit
    simp only [Task.site, Task.expanded, Nat.zero_add] at hdepth
    exact Nat.le_trans hdepth (hbound _)

/-! ## The number of records -/

/-- The visits are no more than the well-formed texts of their names. -/
theorem Brings.length_le {before after : List String} (h : Brings resolver before after [] visits) :
    visits.length ≤ ∑ source ∈ (visits.map (·.record.source)).toFinset,
      (resolver.wellFormedAt source).length := by
  obtain ⟨names, hnodup, -, hperm⟩ := h
  rw [List.nil_append] at hperm
  have hcount : visits.length = ∑ name ∈ names.toFinset, (resolver.wellFormedAt name).length := by
    have hlength := hperm.length_eq
    rw [List.length_map, List.length_flatMap] at hlength
    rw [hlength, List.sum_toFinset _ (List.Nodup.of_map _ hnodup)]
    simp only [signedAt, List.length_map]
  rw [hcount]
  refine Finset.sum_le_sum_of_ne_zero fun name hname hsome => ?_
  obtain ⟨text, htext⟩ := List.exists_mem_of_length_pos (Nat.pos_of_ne_zero hsome)
  have hmem : (name, text) ∈ visits.map Visit.signed :=
    hperm.mem_iff.mpr (List.mem_flatMap.mpr
      ⟨name, List.mem_toFinset.mp hname, List.mem_map_of_mem htext⟩)
  obtain ⟨visit, hvisit, heq⟩ := List.mem_map.mp hmem
  exact List.mem_toFinset.mpr (List.mem_map.mpr ⟨visit, hvisit, congrArg Prod.fst heq⟩)

theorem Resolved.length_le (h : Resolved resolver options visits) :
    visits.length ≤ 1 + ∑ source ∈ (visits.tail.map (·.record.source)).toFinset,
      (resolver.wellFormedAt source).length := by
  cases h with
  | nothing => exact Nat.zero_le _
  | root _ hclauses =>
    rw [List.length_cons, List.tail_cons, Nat.add_comm]
    exact Nat.add_le_add_left hclauses.brings.length_le 1

/-! ## Results -/

/-- The resolutions nest within a bound, whatever text they start from: calls that would nest deeper
are never made, so that anything may stand in for them, and no record is deeper. -/
structure NestsWithin (resolver : Resolver) (options : ResolveOptions) (bound : Nat) : Prop where
  root_eq : ∀ (bottom : Site → String → Walk Findings) (calls : Nat), bound < calls →
    ∀ domain raw statement, root resolver options domain raw statement =
      Prod.fst <$> (follow resolver options ((expandOnce resolver options)^[calls] bottom)
        ⟨domain, domain, 0⟩ raw statement).run []
  depth_le : ∀ records, IsResult resolver options records →
    ∀ record ∈ records, record.depth ≤ bound

theorem nestsWithin_of_measures (hroom : Measures resolver options room) {bound : Nat}
    (hbound : ∀ key, room 0 [key] ≤ bound) : NestsWithin resolver options bound := by
  constructor
  case root_eq =>
    intro bottom calls hcalls domain raw statement
    have hexpand : ∀ target, AgreeOn (fun visited => room 0 visited < calls)
        ((expandOnce resolver options)^[calls] bottom ⟨domain, domain, 0⟩ target)
        (Expansion.expand resolver options options.maxDepth ⟨domain, domain, 0⟩ target) :=
      agreeOn_iterate hroom bottom calls ⟨domain, domain, 0⟩
    have hroot : room 0 [Name.key domain] < calls := Nat.lt_of_le_of_lt (hbound _) hcalls
    rw [root, (agreeOn_follow (hroom.grows 0 calls) hexpand raw statement [] hroot).1]
  case depth_le =>
    intro records h record hrecord
    obtain ⟨visits, hvisits, rfl⟩ := exists_resolved_of_isResult h
    obtain ⟨visit, hvisit, rfl⟩ := List.mem_map.mp hrecord
    exact hvisits.depth_le hroom hbound visit hvisit

/-- Every resolution comes to an end.  It nests within the largest depth, and, whatever that is,
within the number of names that have a well-formed policy, names with one key counted once; and
beside the first record it has at most as many as there are well-formed policies of the names they
come from. -/
theorem nestsWithin_and_length_le (resolver : Resolver) (options : ResolveOptions) :
    NestsWithin resolver options options.maxDepth ∧
      (∀ names : Finset String, (∀ name, resolver.wellFormedAt name ≠ [] → Name.key name ∈ names) →
        NestsWithin resolver options names.card) ∧
      ∀ records, IsResult resolver options records →
        records.length ≤ 1 + ∑ source ∈ (records.tail.map (·.source)).toFinset,
          (resolver.wellFormedAt source).length := by
  refine ⟨?_, fun names hnames => ?_, fun records h => ?_⟩
  · exact nestsWithin_of_measures (measures_maxDepth resolver options) fun _ => Nat.sub_le ..
  · exact nestsWithin_of_measures (measures_unexpanded options hnames) fun _ =>
      Finset.card_filter_le _ _
  · obtain ⟨visits, hvisits, rfl⟩ := exists_resolved_of_isResult h
    have hlength := hvisits.length_le
    rw [List.length_map, ← List.map_tail, List.map_map]
    exact hlength

/-- Two names that lead to each other, and a limit that no record comes near. -/
theorem nestsWithin_two_of_loop :
    let resolver := Zone.resolver [
      ⟨"b", .txt, .ok [.text "v=spf1 include:c"]⟩, ⟨"c", .txt, .ok [.text "v=spf1 redirect=b"]⟩]
    NestsWithin resolver { maxDepth := 2 ^ 64 - 1 } 2 := by
  intro resolver
  have hnames : ∀ name, resolver.wellFormedAt name ≠ [] →
      Name.key name ∈ ({"b", "c"} : Finset String) := by
    intro name hsome
    by_cases hb : "b" = name
    · subst hb
      decide
    by_cases hc : "c" = name
    · subst hc
      decide
    · have hnothing : resolver name .txt = .ok [] := by
        simp [resolver, Zone.resolver, hb, hc]
      refine absurd ?_ hsome
      rw [Resolver.wellFormedAt, Resolver.policiesAt, Resolver.outcome_policyTexts, hnothing]
      rfl
  exact (nestsWithin_and_length_le resolver { maxDepth := 2 ^ 64 - 1 }).2.1 {"b", "c"} hnames

end Expansion

end SenderPolicy
