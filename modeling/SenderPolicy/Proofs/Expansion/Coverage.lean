import Mathlib.Algebra.BigOperators.Group.Finset.Basic
import Mathlib.Data.Multiset.Basic
import SenderPolicy.Dns.Zone
import SenderPolicy.Proofs.Expansion.Tolerance
import SenderPolicy.Proofs.Expansion.Visited

/-!
# What a resolution reaches

With levels enough, a resolution brings a record for every well-formed text of every name that
can be reached from the text it starts from, and no others: `records_eq_reachable`.

Reachability is a least relation and knows nothing of the order in which names are expanded, of
names expanded before, or of levels.  Three facts about courses tie it to the walk, each an
induction over courses.

* `Course.brings`: the visits are the well-formed texts of names with distinct keys, each text
  once.
* `Course.reachable`: the names of the visits are reachable if what the task leads to is.
* `Course.closed`: a name that a visit leads to was expanded before the end, or has nothing to
  expand.  This is the invariant of a depth-first search, and the one place where the levels are
  counted: there are more of them than names not expanded yet.
-/

namespace SenderPolicy

open Statement

/-- The policies published under a name, where a failed lookup counts as none. -/
def Resolver.policiesAt (resolver : Resolver) (name : String) : List String :=
  match (resolver.policyTexts name).outcome with
  | .ok raws => raws
  | .error _ => []

/-- Names whose texts are answered alike publish the same policies. -/
theorem Resolver.policiesAt_congr {resolver : Resolver} {name name' : String}
    (h : resolver name .txt = resolver name' .txt) :
    resolver.policiesAt name = resolver.policiesAt name' := by
  rw [Resolver.policiesAt, Resolver.policiesAt, Resolver.outcome_policyTexts,
    Resolver.outcome_policyTexts, h]

/-- The well-formed policies published under a name. -/
def Resolver.wellFormedAt (resolver : Resolver) (name : String) : List String :=
  (resolver.policiesAt name).filter (WellFormed ·)

theorem Resolver.wellFormedAt_of_ok {resolver : Resolver} {name : String} {raws : List String}
    (hraws : (resolver.policyTexts name).outcome = .ok raws) :
    resolver.wellFormedAt name = raws.filter (WellFormed ·) := by
  rw [Resolver.wellFormedAt, Resolver.policiesAt, hraws]

/-- The well-formed policies published under the names with a key, if they all publish the same. -/
noncomputable def Resolver.wellFormedUnder (resolver : Resolver) : String → List String :=
  Function.extend Name.key resolver.wellFormedAt fun _ => []

/-- The names under each key publish the same well-formed texts. -/
theorem Resolver.wellFormedUnder_key {resolver : Resolver}
    (hkey : Function.FactorsThrough resolver.policiesAt Name.key) (name : String) :
    resolver.wellFormedUnder (Name.key name) = resolver.wellFormedAt name := by
  have hfactors : Function.FactorsThrough resolver.wellFormedAt Name.key := fun a b hab => by
    rw [Resolver.wellFormedAt, Resolver.wellFormedAt, hkey hab]
  exact hfactors.extend_apply _ name

namespace Expansion

/-- The names that can be reached from the text of a domain: those it leads to, and those that
the well-formed texts of a reachable name lead to.  The domain itself has no other text than the one
at hand, so what is published under it does not count. -/
inductive Reachable (resolver : Resolver) (domain raw : String) : String → Prop where
  | ofRoot {target : String} (htarget : target ∈ targets raw) : Reachable resolver domain raw target
  | ofName {name text target : String} (hname : Reachable resolver domain raw name)
      (hother : Name.key name ≠ Name.key domain) (htext : text ∈ resolver.wellFormedAt name)
      (htarget : target ∈ targets text) : Reachable resolver domain raw target

/-- A text with the name that published it. -/
def Visit.signed (visit : Visit) : String × String := (visit.record.source, visit.record.raw)

/-- A text with the key of the name that published it. -/
def Visit.published (visit : Visit) : String × String := (visit.key, visit.record.raw)

/-- The well-formed texts of a name, each with the name. -/
def signedAt (resolver : Resolver) (name : String) : List (String × String) :=
  (resolver.wellFormedAt name).map (name, ·)

/-- The texts under a key, each with the key. -/
def publishedUnder (texts : String → List String) (key : String) : List (String × String) :=
  (texts key).map (key, ·)

variable {resolver : Resolver} {options : ResolveOptions} {levels : Nat} {task : Task}
  {visited visited' : List String} {outcomes : List (Option Outcome)} {visits : List Visit}

/-! ## Each text once -/

/-- The keys that count as expanded while the task is done: the texts of a name share its key. -/
def Task.expanded (visited : List String) : Task → List String
  | .clauses _ _ _ _ => visited
  | .name _ _ _ _ => visited
  | .texts site _ _ _ _ => Name.key site.source :: visited

/-- The well-formed texts that the task is about to read, each with its name. -/
def Task.pending : Task → List (String × String)
  | .clauses _ _ _ _ => []
  | .name _ _ _ _ => []
  | .texts site _ _ _ raws => (raws.filter (WellFormed ·)).map (site.source, ·)

/-- The visits are the pending texts and the well-formed texts of names with distinct keys, which
are new before and expanded after. -/
def Brings (resolver : Resolver) (before after : List String) (pending : List (String × String))
    (visits : List Visit) : Prop :=
  ∃ names : List String, (names.map Name.key).Nodup ∧
    (∀ key ∈ names.map Name.key, key ∉ before ∧ key ∈ after) ∧
    (visits.map Visit.signed).Perm (pending ++ names.flatMap (signedAt resolver))

theorem Brings.nil {before after : List String} : Brings resolver before after [] [] :=
  ⟨[], List.nodup_nil, List.forall_mem_nil _, List.Perm.nil⟩

theorem Brings.append {before between before' after : List String}
    {pending pending' : List (String × String)} {visits visits' : List Visit}
    (h : Brings resolver before between pending visits)
    (h' : Brings resolver before' after pending' visits') (hbefore : before ⊆ before')
    (hbetween : between ⊆ before') (hafter : between ⊆ after) :
    Brings resolver before after (pending ++ pending') (visits ++ visits') := by
  obtain ⟨names, hnodup, hnames, hperm⟩ := h
  obtain ⟨names', hnodup', hnames', hperm'⟩ := h'
  refine ⟨names ++ names', ?_, ?_, ?_⟩
  · rw [List.map_append]
    refine List.nodup_append.mpr ⟨hnodup, hnodup', ?_⟩
    rintro key hkey _ hkey' rfl
    exact (hnames' key hkey').1 (hbetween (hnames key hkey).2)
  · rw [List.map_append]
    intro key hkey
    rcases List.mem_append.mp hkey with hkey | hkey
    · exact ⟨(hnames key hkey).1, hafter (hnames key hkey).2⟩
    · exact ⟨fun hmem => (hnames' key hkey).1 (hbefore hmem), (hnames' key hkey).2⟩
  · rw [List.map_append, List.flatMap_append, List.append_assoc]
    refine (hperm.append hperm').trans ?_
    rw [List.append_assoc]
    exact (List.perm_append_comm_assoc _ _ _).append_left pending

theorem Brings.cons {before after : List String} {pending : List (String × String)}
    {visits : List Visit} (visit : Visit) (h : Brings resolver before after pending visits) :
    Brings resolver before after (visit.signed :: pending) (visit :: visits) := by
  obtain ⟨names, hnodup, hnames, hperm⟩ := h
  exact ⟨names, hnodup, hnames, hperm.cons _⟩

/-- Pending texts are those of one more name, if there are any at all. -/
theorem Brings.of_pending {name : String} {before after : List String} {visits : List Visit}
    (h : Brings resolver (Name.key name :: before) after (signedAt resolver name) visits)
    (hnew : Name.key name ∉ before)
    (hafter : resolver.wellFormedAt name ≠ [] → Name.key name ∈ after) :
    Brings resolver before after [] visits := by
  obtain ⟨names, hnodup, hnames, hperm⟩ := h
  have hold : ∀ key ∈ names.map Name.key, key ∉ before ∧ key ∈ after := fun key hkey =>
    ⟨fun hmem => (hnames key hkey).1 (List.mem_cons_of_mem _ hmem), (hnames key hkey).2⟩
  by_cases hnone : resolver.wellFormedAt name = []
  · rw [signedAt, hnone] at hperm
    exact ⟨names, hnodup, hold, hperm⟩
  · refine ⟨name :: names, List.nodup_cons.mpr ⟨?_, hnodup⟩, ?_, ?_⟩
    · exact fun hmem => (hnames _ hmem).1 (List.mem_cons_self ..)
    · intro key hkey
      rcases List.mem_cons.mp hkey with rfl | hkey
      · exact ⟨hnew, hafter hnone⟩
      · exact hold key hkey
    · rw [List.flatMap_cons]
      exact hperm

/-- If all names with a key publish the same, then the visits are the texts under distinct keys. -/
theorem Brings.exists_keys {texts : String → List String} {before after : List String}
    {visits : List Visit} (h : Brings resolver before after [] visits)
    (htexts : ∀ name, texts (Name.key name) = resolver.wellFormedAt name) :
    ∃ keys : List String, keys.Nodup ∧ (∀ key ∈ keys, key ∉ before ∧ key ∈ after) ∧
      (visits.map Visit.published).Perm (keys.flatMap (publishedUnder texts)) := by
  obtain ⟨names, hnodup, hnames, hperm⟩ := h
  refine ⟨names.map Name.key, hnodup, hnames, ?_⟩
  have hkeyed := hperm.map (Prod.map Name.key id)
  have hunder : (names.map Name.key).flatMap (publishedUnder texts) =
      (names.flatMap (signedAt resolver)).map (Prod.map Name.key id) := by
    rw [List.flatMap_map, List.map_flatMap]
    refine List.flatMap_congr fun name _ => ?_
    rw [publishedUnder, htexts, signedAt, List.map_map]
    rfl
  rw [hunder]
  rw [List.map_map] at hkeyed
  exact hkeyed

/-- A name is expanded once one of its texts is well formed. -/
theorem Course.key_mem_of_wellFormed {site : Site} {trail : List Step} {index text : Nat}
    {raws : List String}
    (h : Course resolver options levels (.texts site trail index text raws) visited outcomes visits
      visited') (hraws : raws.filter (WellFormed ·) ≠ []) : Name.key site.source ∈ visited' := by
  obtain ⟨raw, hraw⟩ := List.exists_mem_of_ne_nil _ hraws
  obtain ⟨hmem, hwf⟩ := List.mem_filter.mp hraw
  obtain ⟨k, hk⟩ := List.mem_iff_getElem?.mp hmem
  obtain ⟨statement, hstatement⟩ := exists_parse_eq_ok_iff.mpr (of_decide_eq_true hwf)
  obtain ⟨below, hvisit⟩ := h.exists_visit_of_text hstatement hk
  exact h.mem_visited_iff.mpr (Or.inl ⟨_, hvisit, rfl⟩)

/-- A course reads the texts of new names, each of them once. -/
theorem Course.brings
    (h : Course resolver options levels task visited outcomes visits visited') :
    Brings resolver (task.expanded visited) visited' task.pending visits := by
  induction h with
  | cycle | tooDeep | failed | missing | noText | noClause => exact Brings.nil
  | @answered _ _ _ _ target visited visited' raws visits hnew hraws hne hcourse ih =>
    have hat := Resolver.wellFormedAt_of_ok hraws
    have hbrings : Brings resolver (Name.key target :: visited) visited'
        (signedAt resolver target) visits := by
      rw [signedAt, hat]
      exact ih
    refine hbrings.of_pending hnew fun hsome => ?_
    rw [hat] at hsome
    exact hcourse.key_mem_of_wellFormed hsome
  | malformed hraw _ ih =>
    rw [Task.pending, List.filter_cons_of_neg (by
      simpa using not_wellFormed_of_parse_eq_error hraw)]
    exact ih
  | @followed _ site _ _ _ raw raws statement visited between visited' _ below visits hraw hclauses
      hrest ihclauses ihrest =>
    have hwf : WellFormed raw := exists_parse_eq_ok_iff.mp ⟨statement, hraw⟩
    rw [Task.pending, List.filter_cons_of_pos (by simpa using hwf), List.map_cons,
      List.cons_append]
    have hbelow : Brings resolver (Name.key site.source :: visited) visited'
        ([] ++ (raws.filter (WellFormed ·)).map (site.source, ·)) (below ++ visits) := by
      refine ihclauses.append ihrest ?_ ?_ ?_
      · exact fun _ hkey => List.mem_cons_of_mem _ (hclauses.mem_visited_of_mem hkey)
      · exact fun _ => List.mem_cons_of_mem _
      · exact fun _ => hrest.mem_visited_of_mem
    exact hbelow.cons ⟨_, recordOf resolver options site raw statement _, _⟩
  | plain _ _ ih => exact ih
  | leads _ hname hrest ihname ihrest =>
    exact ihname.append ihrest (fun _ => hname.mem_visited_of_mem) (fun _ => id)
      fun _ => hrest.mem_visited_of_mem

/-! ## No name too many -/

/-- What the task leads to can be reached. -/
def Task.Reaches (reach : String → Prop) : Task → Prop
  | .clauses _ _ _ row => ∀ target ∈ row.filterMap Clause.target?, reach target
  | .name _ _ _ target => reach target
  | .texts site _ _ _ raws =>
    reach site.source ∧ ∀ raw ∈ raws, WellFormed raw → ∀ target ∈ targets raw, reach target

/-- The names of the visits can be reached if what the task leads to can. -/
theorem Course.reachable {domain raw : String}
    (h : Course resolver options levels task visited outcomes visits visited') :
    Name.key domain ∈ visited → task.Reaches (Reachable resolver domain raw) →
      ∀ visit ∈ visits, Reachable resolver domain raw visit.record.source := by
  induction h with
  | cycle | tooDeep | failed | missing | noText | noClause =>
    exact fun _ _ => List.forall_mem_nil _
  | @answered _ _ _ _ target visited _ raws _ hnew hraws _ _ ih =>
    intro hdomain htarget
    have hother : Name.key target ≠ Name.key domain := by
      rintro heq
      exact hnew (by rwa [heq])
    refine ih hdomain ⟨htarget, fun text htext hwf next hnext => ?_⟩
    refine .ofName htarget hother ?_ hnext
    rw [Resolver.wellFormedAt_of_ok hraws]
    exact List.mem_filter.mpr ⟨htext, by simpa using hwf⟩
  | malformed _ _ ih =>
    intro hdomain hreach
    exact ih hdomain ⟨hreach.1, fun text htext => hreach.2 text (List.mem_cons_of_mem _ htext)⟩
  | @followed _ site _ _ _ text _ statement visited _ _ _ _ _ hraw hclauses _ ihclauses ihrest =>
    intro hdomain hreach visit hvisit
    have hwf : WellFormed text := exists_parse_eq_ok_iff.mp ⟨statement, hraw⟩
    have hmarked : Name.key domain ∈ Name.key site.source :: visited :=
      List.mem_cons_of_mem _ hdomain
    rcases List.mem_append.mp hvisit with hvisit | hvisit
    · rcases List.mem_cons.mp hvisit with rfl | hvisit
      · exact hreach.1
      · refine ihclauses hmarked ?_ visit hvisit
        rw [Task.Reaches, ← targets_of_parse_eq_ok hraw]
        exact hreach.2 text (List.mem_cons_self ..) hwf
    · exact ihrest (hclauses.mem_visited_of_mem hmarked)
        ⟨hreach.1, fun text htext => hreach.2 text (List.mem_cons_of_mem _ htext)⟩ visit hvisit
  | plain hplain _ ih =>
    intro hdomain hreach
    rw [Task.Reaches, List.filterMap_cons_none hplain] at hreach
    exact ih hdomain hreach
  | leads hlead hname _ ihname ihrest =>
    intro hdomain hreach visit hvisit
    rw [Task.Reaches, List.filterMap_cons_some hlead, List.forall_mem_cons] at hreach
    rcases List.mem_append.mp hvisit with hvisit | hvisit
    · exact ihname hdomain hreach.1 visit hvisit
    · exact ihrest (hname.mem_visited_of_mem hdomain) hreach.2 visit hvisit

/-! ## No name too few -/

/-- The number of the names that are not expanded yet. -/
def unexpanded (names : Finset String) (visited : List String) : ℕ :=
  (names.filter (· ∉ visited)).card

theorem unexpanded_le_of_subset {names : Finset String} (hsub : visited ⊆ visited') :
    unexpanded names visited' ≤ unexpanded names visited := by
  refine Finset.card_le_card fun key hkey => ?_
  rw [Finset.mem_filter] at hkey ⊢
  exact ⟨hkey.1, fun hmem => hkey.2 (hsub hmem)⟩

theorem unexpanded_cons_lt {names : Finset String} {key : String} (hkey : key ∈ names)
    (hnew : key ∉ visited) : unexpanded names (key :: visited) < unexpanded names visited := by
  refine Finset.card_lt_card ⟨?_, fun hsub => ?_⟩
  · intro k hk
    rw [Finset.mem_filter] at hk ⊢
    exact ⟨hk.1, fun hmem => hk.2 (List.mem_cons_of_mem _ hmem)⟩
  · have hmem := hsub (Finset.mem_filter.mpr ⟨hkey, hnew⟩)
    exact (Finset.mem_filter.mp hmem).2 (List.mem_cons_self ..)

/-- The name has been expanded, or has nothing to expand. -/
def Settled (resolver : Resolver) (visited : List String) (target : String) : Prop :=
  resolver.wellFormedAt target ≠ [] → Name.key target ∈ visited

theorem Settled.mono {target : String} (h : Settled resolver visited target)
    (hsub : visited ⊆ visited') : Settled resolver visited' target :=
  fun hsome => hsub (h hsome)

/-- The names that the task leads to by itself. -/
def Task.targets : Task → List String
  | .clauses _ _ _ row => row.filterMap Clause.target?
  | .name _ _ _ target => [target]
  | .texts _ _ _ _ _ => []

/-- The invariant of a depth-first search: at the end of a course every name that it led to, or
that one of its visits led to, is settled. -/
theorem Course.closed {names : Finset String}
    (hnames : ∀ name, resolver.policiesAt name ≠ [] → Name.key name ∈ names)
    (h : Course resolver options levels task visited outcomes visits visited') :
    unexpanded names (task.expanded visited) < levels →
      (∀ target ∈ task.targets, Settled resolver visited' target) ∧
        ∀ visit ∈ visits, ∀ target ∈ targets visit.record.raw,
          Settled resolver visited' target := by
  induction h with
  | cycle hvisited =>
    refine fun _ => ⟨fun target htarget => ?_, List.forall_mem_nil _⟩
    rw [Task.targets, List.mem_singleton] at htarget
    subst htarget
    exact fun _ => hvisited
  | tooDeep => exact fun hroom => absurd hroom (Nat.not_lt_zero _)
  | failed _ hfailure =>
    refine fun _ => ⟨fun target htarget hsome => absurd ?_ hsome, List.forall_mem_nil _⟩
    rw [Task.targets, List.mem_singleton] at htarget
    rw [htarget, Resolver.wellFormedAt, Resolver.policiesAt, hfailure]
    rfl
  | missing _ hmissing =>
    refine fun _ => ⟨fun target htarget hsome => absurd ?_ hsome, List.forall_mem_nil _⟩
    rw [Task.targets, List.mem_singleton] at htarget
    rw [htarget, Resolver.wellFormedAt_of_ok hmissing]
    rfl
  | @answered levels _ _ _ target visited _ raws _ hnew hraws hne hcourse ih =>
    intro hroom
    have hpolicies : resolver.policiesAt target = raws := by
      rw [Resolver.policiesAt, hraws]
    have hname : Name.key target ∈ names := hnames target (hpolicies ▸ hne)
    -- the texts of the name have one level less, and one name less to expand
    have hless : unexpanded names (Name.key target :: visited) < levels :=
      Nat.lt_of_lt_of_le (unexpanded_cons_lt hname hnew) (Nat.le_of_lt_succ hroom)
    refine ⟨fun name hmem hsome => ?_, (ih hless).2⟩
    rw [Task.targets, List.mem_singleton] at hmem
    rw [hmem, Resolver.wellFormedAt_of_ok hraws] at hsome
    rw [hmem]
    exact hcourse.key_mem_of_wellFormed hsome
  | noText => exact fun _ => ⟨List.forall_mem_nil _, List.forall_mem_nil _⟩
  | malformed _ _ ih => exact ih
  | @followed _ site _ _ _ _ _ _ visited between visited' _ _ _ hraw hclauses hrest ihclauses
      ihrest =>
    intro hroom
    have hstart : Name.key site.source :: visited ⊆ between :=
      fun _ => hclauses.mem_visited_of_mem
    have hend : between ⊆ visited' := fun _ => hrest.mem_visited_of_mem
    obtain ⟨hown, hbelow⟩ := ihclauses hroom
    have hless : unexpanded names (Name.key site.source :: between) < _ :=
      Nat.lt_of_le_of_lt (unexpanded_le_of_subset fun _ hkey =>
        List.mem_cons_of_mem _ (hstart hkey)) hroom
    refine ⟨List.forall_mem_nil _, fun visit hvisit => ?_⟩
    rcases List.mem_append.mp hvisit with hvisit | hvisit
    · rcases List.mem_cons.mp hvisit with rfl | hvisit
      · intro target htarget
        refine (hown target ?_).mono hend
        rw [Task.targets, ← targets_of_parse_eq_ok hraw]
        exact htarget
      · exact fun target htarget => (hbelow visit hvisit target htarget).mono hend
    · exact (ihrest hless).2 visit hvisit
  | noClause => exact fun _ => ⟨List.forall_mem_nil _, List.forall_mem_nil _⟩
  | plain hplain _ ih =>
    intro hroom
    rw [Task.targets, List.filterMap_cons_none hplain]
    exact ih hroom
  | @leads _ _ _ _ _ _ _ _ between visited' _ _ _ _ hlead hname hrest ihname ihrest =>
    intro hroom
    obtain ⟨htarget, hbelow⟩ := ihname hroom
    obtain ⟨hown, hvisits⟩ := ihrest (Nat.lt_of_le_of_lt
      (unexpanded_le_of_subset fun _ => hname.mem_visited_of_mem) hroom)
    have hend : between ⊆ visited' := fun _ => hrest.mem_visited_of_mem
    rw [Task.targets, List.filterMap_cons_some hlead, List.forall_mem_cons]
    refine ⟨⟨(htarget _ (List.mem_singleton_self _)).mono hend, hown⟩, fun visit hvisit => ?_⟩
    rcases List.mem_append.mp hvisit with hvisit | hvisit
    · exact fun target hmem => (hbelow visit hvisit target hmem).mono hend
    · exact hvisits visit hvisit

/-! ## The names of a resolution -/

/-- The texts that visits bring are the texts under the keys that they bring. -/
theorem mem_keys_of_perm {texts : String → List String} {keys : List String}
    (hperm : (visits.map Visit.published).Perm (keys.flatMap (publishedUnder texts)))
    {visit : Visit} (hvisit : visit ∈ visits) : visit.key ∈ keys := by
  have hmem := hperm.mem_iff.mp (List.mem_map_of_mem hvisit)
  obtain ⟨key, hkey, hpublished⟩ := List.mem_flatMap.mp hmem
  obtain ⟨text, -, heq⟩ := List.mem_map.mp hpublished
  rw [Visit.published, Prod.mk.injEq] at heq
  rw [← heq.1]
  exact hkey

theorem exists_visit_of_mem_texts {texts : String → List String} {keys : List String}
    (hperm : (visits.map Visit.published).Perm (keys.flatMap (publishedUnder texts)))
    {key text : String} (hkey : key ∈ keys) (htext : text ∈ texts key) :
    ∃ visit ∈ visits, visit.key = key ∧ visit.record.raw = text := by
  have hmem : (key, text) ∈ visits.map Visit.published :=
    hperm.mem_iff.mpr (List.mem_flatMap.mpr ⟨key, hkey, List.mem_map_of_mem htext⟩)
  obtain ⟨visit, hvisit, heq⟩ := List.mem_map.mp hmem
  rw [Visit.published, Prod.mk.injEq] at heq
  exact ⟨visit, hvisit, heq.1, heq.2⟩

/-- What is settled of the names that the root and the visits lead to is settled of every name that
can be reached. -/
theorem Reachable.settled {domain raw : String} {texts : String → List String}
    {keys : List String} (htexts : ∀ name, texts (Name.key name) = resolver.wellFormedAt name)
    (hperm : (visits.map Visit.published).Perm (keys.flatMap (publishedUnder texts)))
    (hroot : ∀ target ∈ targets raw, Settled resolver visited target)
    (hvisits : ∀ visit ∈ visits, ∀ target ∈ targets visit.record.raw,
      Settled resolver visited target)
    (hkeys : ∀ key ∈ visited, key ≠ Name.key domain → key ∈ keys) {name : String}
    (h : Reachable resolver domain raw name) : Settled resolver visited name := by
  induction h with
  | ofRoot htarget => exact hroot _ htarget
  | @ofName name text target _ hother htext htarget ih =>
    have hname : Name.key name ∈ keys :=
      hkeys _ (ih (List.ne_nil_of_mem htext)) hother
    rw [← htexts] at htext
    obtain ⟨visit, hvisit, -, rfl⟩ := exists_visit_of_mem_texts hperm hname htext
    exact hvisits visit hvisit target htarget

/-- Distinct keys bring the sum of what is published under them. -/
theorem coe_flatMap_eq_sum {texts : String → List String} {keys : List String}
    (hnodup : keys.Nodup) :
    ((keys.flatMap (publishedUnder texts) : List (String × String)) : Multiset (String × String)) =
      ∑ key ∈ ⟨(keys : Multiset String), hnodup⟩,
        (publishedUnder texts key : Multiset (String × String)) := by
  rw [← Multiset.coe_bind]
  rfl

open Classical in
/-- With more levels than names not expanded, the clauses of a text bring what is published under
the keys, other than that of the domain, of the names that can be reached. -/
theorem Course.map_published_eq_sum {domain raw : String} {statement : Statement}
    {names : Finset String} (hkey : Function.FactorsThrough resolver.policiesAt Name.key)
    (hnames : ∀ name, resolver.policiesAt name ≠ [] → Name.key name ∈ names)
    (hraw : parse raw = .ok statement) (hroom : unexpanded names [Name.key domain] < levels)
    {site : Site} {trail : List Step} {index : Nat}
    (h : Course resolver options levels (.clauses site trail index statement.clauses)
      [Name.key domain] outcomes visits visited') :
    ((visits.map Visit.published : List (String × String)) : Multiset (String × String)) =
      ∑ key ∈ names with key ≠ Name.key domain ∧
          ∃ name, Reachable resolver domain raw name ∧ Name.key name = key,
        (publishedUnder resolver.wellFormedUnder key : Multiset (String × String)) := by
  have htexts := Resolver.wellFormedUnder_key hkey
  obtain ⟨keys, hnodup, hkeys, hperm⟩ := h.brings.exists_keys htexts
  obtain ⟨hown, hvisits⟩ := h.closed hnames hroom
  rw [Task.targets, ← targets_of_parse_eq_ok hraw] at hown
  have hreachable : ∀ visit ∈ visits, Reachable resolver domain raw visit.record.source := by
    refine h.reachable (List.mem_singleton_self _) ?_
    rw [Task.Reaches, ← targets_of_parse_eq_ok hraw]
    exact fun target => .ofRoot
  have hexpanded : ∀ key ∈ visited', key ≠ Name.key domain → key ∈ keys := by
    intro key hmem hother
    rcases h.mem_visited_iff.mp hmem with ⟨visit, hvisit, rfl⟩ | hmem
    · exact mem_keys_of_perm hperm hvisit
    · exact absurd (List.mem_singleton.mp hmem) hother
  have hnothing : ∀ {key}, resolver.wellFormedUnder key = [] →
      (publishedUnder resolver.wellFormedUnder key : Multiset (String × String)) = 0 := by
    intro key hnil
    rw [publishedUnder, hnil]
    rfl
  rw [Multiset.coe_eq_coe.mpr hperm, coe_flatMap_eq_sum hnodup]
  refine Finset.sum_congr_of_eq_on_inter ?_ ?_ fun _ _ _ => rfl
  · -- a key that is brought and is not in the sum publishes nothing
    intro key hmem hnot
    by_contra hsome
    have hne : resolver.wellFormedUnder key ≠ [] := fun hnil => hsome (hnothing hnil)
    obtain ⟨text, htext⟩ := List.exists_mem_of_ne_nil _ hne
    obtain ⟨visit, hvisit, rfl, -⟩ := exists_visit_of_mem_texts hperm hmem htext
    have hpolicies : resolver.policiesAt visit.record.source ≠ [] := by
      rintro hnil
      rw [Visit.key, htexts, Resolver.wellFormedAt, hnil] at hne
      exact hne rfl
    have hother : visit.key ≠ Name.key domain := fun heq =>
      (hkeys _ hmem).1 (List.mem_singleton.mpr heq)
    exact hnot (Finset.mem_filter.mpr
      ⟨hnames _ hpolicies, hother, visit.record.source, hreachable visit hvisit, rfl⟩)
  · -- a key in the sum that is not brought publishes nothing
    intro key hmem hnot
    obtain ⟨-, hother, name, hname, rfl⟩ := Finset.mem_filter.mp hmem
    by_contra hsome
    have hsettled := hname.settled htexts hperm hown hvisits hexpanded
    refine hnot (hexpanded _ (hsettled fun hnil => hsome (hnothing ?_)) hother)
    rw [htexts, hnil]

open Classical in
/-- Soundness and completeness of the expansion.  The names with one key publish the same policies,
and `names` has every key under which there is one.  If failures are tolerated and there are more
levels than keys, then a text has a result, and its records are the text itself and, once for each
key other than that of the domain under which a name can be reached, the well-formed texts published
there. -/
theorem records_eq_reachable {domain ascii raw : String} {names : Finset String}
    (hkey : Function.FactorsThrough resolver.policiesAt Name.key)
    (hnames : ∀ name, resolver.policiesAt name ≠ [] → Name.key name ∈ names)
    (hdomain : normalizeDomain domain = .ok ascii) (hraw : WellFormed raw)
    (hpolicy : options.onFailure = .tolerate) (hdepth : names.card < options.maxDepth) :
    ∃ records, (parseRecord resolver options domain raw).outcome = .ok records ∧
      (records.map fun record => (Name.key record.source, record.raw) :
          Multiset (String × String)) =
        (Name.key ascii, raw) ::ₘ
          ∑ key ∈ names with key ≠ Name.key ascii ∧
              ∃ name, Reachable resolver ascii raw name ∧ Name.key name = key,
            (publishedUnder resolver.wellFormedUnder key : Multiset (String × String)) := by
  obtain ⟨statement, hstatement⟩ := exists_parse_eq_ok_iff.mpr hraw
  obtain ⟨records, hrecords⟩ : ∃ records,
      (parseRecord resolver options domain raw).outcome = .ok records :=
    exists_outcome_parseRecord hpolicy hdomain hstatement
  refine ⟨records, hrecords, ?_⟩
  obtain ⟨_, _, hascii, hparse, hroot⟩ := outcome_parseRecord_eq_ok.mp hrecords
  obtain rfl := Except.ok.inj (hdomain.symm.trans hascii)
  obtain rfl := Except.ok.inj (hstatement.symm.trans hparse)
  obtain ⟨outcomes, visits, visited', hcourse, rfl⟩ := exists_course_of_root hroot
  have hroom : unexpanded names [Name.key ascii] < options.maxDepth :=
    Nat.lt_of_le_of_lt (Finset.card_filter_le _ _) hdepth
  rw [List.map_cons, List.map_map, ← Multiset.cons_coe]
  exact congrArg _ (hcourse.map_published_eq_sum hkey hnames hstatement hroom)

/-- The resolver that answers a name from a zone as it answers the key of the name. -/
def answersByKey (zone : Zone) : Resolver := fun name => Zone.resolver zone (Name.key name)

/-- A zone has policies for the names of its entries only. -/
theorem key_mem_of_policiesAt_answersByKey {zone : Zone} {name : String}
    (h : (answersByKey zone).policiesAt name ≠ []) :
    Name.key name ∈ (zone.map Zone.Entry.name).toFinset := by
  by_contra hnot
  have hfind : zone.find? (fun entry => entry.name == Name.key name && entry.type == .txt) =
      none := by
    rw [List.find?_eq_none]
    intro entry hentry hmatch
    refine hnot (List.mem_toFinset.mpr ?_)
    rw [← eq_of_beq (Bool.and_eq_true_iff.mp hmatch).1]
    exact List.mem_map_of_mem hentry
  refine h ?_
  rw [Resolver.policiesAt, Resolver.outcome_policyTexts, answersByKey, Zone.resolver, hfind]
  rfl

open Classical in
/-- A zone in which the texts of two names lead to each other, one of them also to the domain, and
in which a text is malformed. -/
theorem records_eq_reachable_of_zone :
    let zone : Zone := [
      ⟨"b", .txt, .ok [.text "v=spf1 include:C. -all", .text "v=spf1 redirect=a"]⟩,
      ⟨"c", .txt, .ok [.text "v=spf1 include:b", .text "v=spf1"]⟩]
    let options : ResolveOptions := { maxDepth := 3 }
    ∃ records, (parseRecord (answersByKey zone) options "a" "v=spf1 include:b include:c").outcome =
        .ok records ∧
      (records.map fun record => (Name.key record.source, record.raw) :
          Multiset (String × String)) =
        (Name.key "a", "v=spf1 include:b include:c") ::ₘ
          ∑ key ∈ (zone.map Zone.Entry.name).toFinset with key ≠ Name.key "a" ∧
              ∃ name, Reachable (answersByKey zone) "a" "v=spf1 include:b include:c" name ∧
                Name.key name = key,
            (publishedUnder (answersByKey zone).wellFormedUnder key :
              Multiset (String × String)) := by
  intro zone options
  refine records_eq_reachable ?_ (fun name => key_mem_of_policiesAt_answersByKey) rfl ?_ rfl ?_
  · intro name name' hkey
    refine Resolver.policiesAt_congr ?_
    rw [answersByKey, answersByKey, hkey]
  · decide
  · decide

end Expansion

end SenderPolicy
