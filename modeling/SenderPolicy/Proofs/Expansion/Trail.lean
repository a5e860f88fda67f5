import Mathlib.Data.List.Nodup
import SenderPolicy.Proofs.Expansion.Records

/-!
# The order and the descent of the records

The records of a resolution stand in one list, and their trails arrange them as a tree.

* `Resolved.pairwise_trail_lt`: the trails grow along the list, in the lexicographic order of steps.
  So no two visits have one trail, a record stands in front of those it leads to, and these stand in
  the order of the clauses and, for one clause, in the order of the texts.
* `Resolved.exists_leads`: a visit that is not the first one has been led to by another one, and
  `Resolved.existsUnique_leads`: by one alone.  `Visit.LedTo` says what that means in terms of the
  parent's text and of the resolver's answer.
* `Resolved.forall_of_leads`: so what holds of the first visit and is handed down from a visit to
  those it leads to, holds of all of them.

The first two are inductions over courses, and in both the invariant says which visits a task brings
by itself: `Task.Covers` bounds their trails, and `Task.Brought` is what will be said of them once
the record that the task belongs to is known.
-/

namespace SenderPolicy

namespace Expansion

variable {resolver : Resolver} {options : ResolveOptions} {levels : Nat} {task : Task}
  {visited visited' : List String} {outcomes : List (Option Outcome)} {visits : List Visit}

/-! ## The order -/

/-- Steps are ordered by clause, and by text within a clause. -/
instance : LT Step := ⟨fun s t => s.clause < t.clause ∨ s.clause = t.clause ∧ s.text < t.text⟩

instance : Std.Irrefl (· < · : Step → Step → Prop) where
  irrefl _ h := h.elim (Nat.lt_irrefl _) fun h => Nat.lt_irrefl _ h.2

/-- The trails that start with what the task has yet to do. -/
def Task.Covers (t : List Step) : Task → Prop
  | .clauses _ trail index _ => ∃ step rest, index ≤ step.clause ∧ t = trail ++ step :: rest
  | .name _ trail index _ => ∃ step rest, step.clause = index ∧ t = trail ++ step :: rest
  | .texts _ trail index text _ =>
    ∃ step rest, (step.clause = index ∧ text ≤ step.text) ∧ t = trail ++ step :: rest

theorem Course.covers (h : Course resolver options levels task visited outcomes visits visited') :
    ∀ visit ∈ visits, task.Covers visit.trail := by
  induction h with
  | cycle | tooDeep | failed | missing | noText | noClause => exact List.forall_mem_nil _
  | answered _ _ _ _ ih =>
    intro visit hvisit
    obtain ⟨step, rest, hstep, htrail⟩ := ih visit hvisit
    exact ⟨step, rest, hstep.1, htrail⟩
  | malformed _ _ ih =>
    intro visit hvisit
    obtain ⟨step, rest, hstep, htrail⟩ := ih visit hvisit
    exact ⟨step, rest, ⟨hstep.1, Nat.le_of_succ_le hstep.2⟩, htrail⟩
  | @followed _ _ trail index text _ _ _ _ _ _ _ _ _ _ _ _ ihclauses ihrest =>
    intro visit hvisit
    rcases List.mem_append.mp hvisit with hvisit | hvisit
    · rcases List.mem_cons.mp hvisit with rfl | hvisit
      · exact ⟨⟨index, text⟩, [], ⟨rfl, Nat.le_refl text⟩, rfl⟩
      · obtain ⟨step, rest, -, htrail⟩ := ihclauses visit hvisit
        rw [← List.append_cons] at htrail
        exact ⟨⟨index, text⟩, step :: rest, ⟨rfl, Nat.le_refl text⟩, htrail⟩
    · obtain ⟨step, rest, hstep, htrail⟩ := ihrest visit hvisit
      exact ⟨step, rest, ⟨hstep.1, Nat.le_of_succ_le hstep.2⟩, htrail⟩
  | plain _ _ ih =>
    intro visit hvisit
    obtain ⟨step, rest, hstep, htrail⟩ := ih visit hvisit
    exact ⟨step, rest, Nat.le_of_succ_le hstep, htrail⟩
  | leads _ _ _ ihname ihrest =>
    intro visit hvisit
    rcases List.mem_append.mp hvisit with hvisit | hvisit
    · obtain ⟨step, rest, hstep, htrail⟩ := ihname visit hvisit
      exact ⟨step, rest, Nat.le_of_eq hstep.symm, htrail⟩
    · obtain ⟨step, rest, hstep, htrail⟩ := ihrest visit hvisit
      exact ⟨step, rest, Nat.le_of_succ_le hstep, htrail⟩

/-- A trail stands in front of its continuations. -/
theorem trail_lt_append_cons (trail : List Step) (step : Step) (rest : List Step) :
    trail < trail ++ step :: rest := by
  have h : trail ++ [] < trail ++ step :: rest := List.append_left_lt (List.nil_lt_cons step rest)
  rwa [List.append_nil] at h

/-- Trails that part at a step are ordered by that step. -/
theorem append_cons_lt_append_cons {trail rest rest' : List Step} {s t : Step} (h : s < t) :
    trail ++ s :: rest < trail ++ t :: rest' :=
  List.append_left_lt (List.cons_lt_cons_iff.mpr (Or.inl h))

/-- Two continuations of one trail are ordered by what they add to it. -/
theorem lt_of_append_lt_append {t u w : List Step} (h : t ++ u < t ++ w) : u < w := by
  induction t with
  | nil => exact h
  | cons s t ih =>
    rw [List.cons_append, List.cons_append] at h
    rcases List.cons_lt_cons_iff.mp h with hlt | ⟨-, hlt⟩
    · exact absurd hlt (Std.Irrefl.irrefl s)
    · exact ih hlt

theorem Course.pairwise_trail_lt
    (h : Course resolver options levels task visited outcomes visits visited') :
    visits.Pairwise fun x y => x.trail < y.trail := by
  induction h with
  | cycle | tooDeep | failed | missing | noText | noClause => exact List.Pairwise.nil
  | answered _ _ _ _ ih => exact ih
  | malformed _ _ ih => exact ih
  | plain _ _ ih => exact ih
  | @followed _ _ trail index text _ _ _ _ _ _ _ _ _ _ hclauses hrest ihclauses ihrest =>
    refine List.pairwise_append.mpr ⟨List.pairwise_cons.mpr ⟨fun y hy => ?_, ihclauses⟩, ihrest, ?_⟩
    · obtain ⟨step, rest, -, htrail⟩ := hclauses.covers y hy
      rw [htrail]
      exact trail_lt_append_cons _ step rest
    · intro x hx y hy
      obtain ⟨step, rest, hstep, htrail⟩ := hrest.covers y hy
      have hlt : (⟨index, text⟩ : Step) < step := Or.inr ⟨hstep.1.symm, hstep.2⟩
      rw [htrail]
      rcases List.mem_cons.mp hx with rfl | hx
      · exact append_cons_lt_append_cons hlt
      · obtain ⟨step', rest', -, htrail'⟩ := hclauses.covers x hx
        rw [htrail', ← List.append_cons]
        exact append_cons_lt_append_cons hlt
  | leads _ hname hrest ihname ihrest =>
    refine List.pairwise_append.mpr ⟨ihname, ihrest, fun x hx y hy => ?_⟩
    obtain ⟨step, rest, hstep, htrail⟩ := hname.covers x hx
    obtain ⟨step', rest', hstep', htrail'⟩ := hrest.covers y hy
    have hlt : step < step' := Or.inl (by rw [hstep]; exact hstep')
    rw [htrail, htrail']
    exact append_cons_lt_append_cons hlt

/-- The trails of a resolution grow along the list. -/
theorem Resolved.pairwise_trail_lt (h : Resolved resolver options visits) :
    visits.Pairwise fun x y => x.trail < y.trail := by
  cases h with
  | nothing => exact List.Pairwise.nil
  | root _ hclauses =>
    refine List.pairwise_cons.mpr ⟨fun y hy => ?_, hclauses.pairwise_trail_lt⟩
    obtain ⟨step, rest, -, htrail⟩ := hclauses.covers y hy
    rw [htrail]
    exact trail_lt_append_cons [] step rest

theorem Resolved.nodup_trail (h : Resolved resolver options visits) :
    (visits.map Visit.trail).Nodup := by
  rw [List.Nodup, List.pairwise_map]
  refine h.pairwise_trail_lt.imp fun {x y} hlt heq => ?_
  rw [heq] at hlt
  exact List.lt_irrefl _ hlt

/-- A visit is known by its trail. -/
theorem Resolved.eq_of_trail_eq (h : Resolved resolver options visits) {x y : Visit}
    (hx : x ∈ visits) (hy : y ∈ visits) (htrail : x.trail = y.trail) : x = y :=
  List.inj_on_of_nodup_map h.nodup_trail hx hy htrail

/-! ## The descent -/

/-- The visit is on the trail, at the site, and to the text. -/
def Visit.IsAt (visit : Visit) (trail : List Step) (site : Site) (raw : String) : Prop :=
  visit.trail = trail ∧ visit.site = site ∧ visit.record.raw = raw

/-- A visit leads to another one by a step: the clause of its text at that number leads to the
name, the name has been expanded for it and publishes the texts, and the other visit is to the text
at that number among them. -/
def Visit.LedTo (resolver : Resolver) (parent : Visit) (step : Step) (target : String)
    (texts : List String) (child : Visit) : Prop :=
  ∃ clause raw,
    (Statement.active (Statement.allClauses parent.record.raw))[step.clause]? = some clause ∧
      clause.target? = some target ∧
      parent.outcomes[step.clause]? = some (some (.answered texts)) ∧
      (resolver.policyTexts target).outcome = .ok texts ∧ texts[step.text]? = some raw ∧
      child.IsAt (parent.trail ++ [step])
        ⟨parent.record.domain, target, parent.record.depth + 1⟩ raw

/-- A visit leads to another one. -/
def Visit.Leads (resolver : Resolver) (parent child : Visit) : Prop :=
  ∃ step target texts, parent.LedTo resolver step target texts child

theorem Visit.LedTo.trail_eq {parent child : Visit} {step : Step} {target : String}
    {texts : List String} (h : parent.LedTo resolver step target texts child) :
    child.trail = parent.trail ++ [step] := by
  obtain ⟨clause, raw, -, -, -, -, -, htrail, -⟩ := h
  exact htrail

/-- One clause of a visit leads to one name, and has one answer. -/
theorem Visit.LedTo.eq_of_clause_eq {parent x y : Visit} {clause k l : Nat}
    {target target' : String} {texts texts' : List String}
    (hx : parent.LedTo resolver ⟨clause, k⟩ target texts x)
    (hy : parent.LedTo resolver ⟨clause, l⟩ target' texts' y) :
    target = target' ∧ texts = texts' := by
  obtain ⟨c, raw, hclause, htarget, houtcome, -⟩ := hx
  obtain ⟨c', raw', hclause', htarget', houtcome', -⟩ := hy
  obtain rfl := Option.some.inj (hclause.symm.trans hclause')
  have htexts := Option.some.inj (Option.some.inj (houtcome.symm.trans houtcome'))
  exact ⟨Option.some.inj (htarget.symm.trans htarget'), Outcome.answered.inj htexts⟩

/-- The visit is one that the task brings by itself. -/
def Task.Brought (resolver : Resolver) (outcomes : List (Option Outcome)) (visit : Visit) :
    Task → Prop
  | .clauses site trail index row => ∃ i k clause target texts raw,
      row[i]? = some clause ∧ clause.target? = some target ∧
        outcomes[i]? = some (some (.answered texts)) ∧
        (resolver.policyTexts target).outcome = .ok texts ∧ texts[k]? = some raw ∧
        visit.IsAt (trail ++ [⟨index + i, k⟩]) ⟨site.domain, target, site.depth + 1⟩ raw
  | .name site trail index target => ∃ k texts raw,
      outcomes = [some (.answered texts)] ∧
        (resolver.policyTexts target).outcome = .ok texts ∧ texts[k]? = some raw ∧
        visit.IsAt (trail ++ [⟨index, k⟩]) ⟨site.domain, target, site.depth + 1⟩ raw
  | .texts site trail index text raws => ∃ k raw,
      raws[k]? = some raw ∧ visit.IsAt (trail ++ [⟨index, text + k⟩]) site raw

theorem Task.Brought.cons_text {site : Site} {trail : List Step} {index text : Nat}
    {first : String} {raws : List String} {visit : Visit}
    (h : Task.Brought resolver outcomes visit (.texts site trail index (text + 1) raws)) :
    Task.Brought resolver outcomes visit (.texts site trail index text (first :: raws)) := by
  obtain ⟨k, raw, hraw, hvisit⟩ := h
  rw [Nat.succ_add_eq_add_succ] at hvisit
  exact ⟨k + 1, raw, hraw, hvisit⟩

theorem Task.Brought.cons_clause {site : Site} {trail : List Step} {index : Nat} {first : Clause}
    {row : List Clause} {outcome : Option Outcome} {visit : Visit}
    (h : Task.Brought resolver outcomes visit (.clauses site trail (index + 1) row)) :
    Task.Brought resolver (outcome :: outcomes) visit
      (.clauses site trail index (first :: row)) := by
  obtain ⟨i, k, clause, target, texts, raw, hclause, htarget, houtcome, htexts, hraw, hvisit⟩ := h
  rw [Nat.succ_add_eq_add_succ] at hvisit
  exact ⟨i + 1, k, clause, target, texts, raw, hclause, htarget, houtcome, htexts, hraw, hvisit⟩

/-- What the name that a clause leads to brings, the clause brings. -/
theorem Task.Brought.of_name {site : Site} {trail : List Step} {index : Nat} {clause : Clause}
    {row : List Clause} {target : String} {outcome : Outcome} {visit : Visit}
    (htarget : clause.target? = some target)
    (h : Task.Brought resolver [some outcome] visit (.name site trail index target)) :
    Task.Brought resolver (some outcome :: outcomes) visit
      (.clauses site trail index (clause :: row)) := by
  obtain ⟨k, texts, raw, houtcome, htexts, hraw, hvisit⟩ := h
  obtain rfl : outcome = .answered texts := Option.some.inj (List.cons.inj houtcome).1
  exact ⟨0, k, clause, target, texts, raw, rfl, htarget, rfl, htexts, hraw, hvisit⟩

/-- What the clauses of a text bring, the record of the text leads to. -/
theorem Task.Brought.leads {site : Site} {trail : List Step} {raw : String}
    {statement : Statement} {visit : Visit} (hraw : Statement.parse raw = .ok statement)
    (h : Task.Brought resolver outcomes visit (.clauses site trail 0 statement.clauses)) :
    Visit.Leads resolver
      ⟨trail, recordOf resolver options site raw statement outcomes, outcomes⟩ visit := by
  obtain ⟨i, k, clause, target, texts, raw', hclause, htarget, houtcome, htexts, htext, hvisit⟩ := h
  rw [Statement.clauses_of_parse_eq_ok hraw] at hclause
  rw [Nat.zero_add] at hvisit
  exact ⟨⟨i, k⟩, target, texts, clause, raw', hclause, htarget, houtcome, htexts, htext, hvisit⟩

/-- A visit of a course is brought by the task itself, or another visit leads to it. -/
theorem Course.brought_or_leads
    (h : Course resolver options levels task visited outcomes visits visited') :
    ∀ visit ∈ visits, task.Brought resolver outcomes visit ∨
      ∃ parent ∈ visits, parent.Leads resolver visit := by
  induction h with
  | cycle | tooDeep | failed | missing | noText | noClause => exact List.forall_mem_nil _
  | @answered _ _ _ _ _ _ _ raws _ _ hraws _ _ ih =>
    intro visit hvisit
    refine (ih visit hvisit).imp_left ?_
    rintro ⟨k, raw, hraw, hvisit⟩
    rw [Nat.zero_add] at hvisit
    exact ⟨k, raws, raw, rfl, hraws, hraw, hvisit⟩
  | malformed _ _ ih => exact fun visit hvisit => (ih visit hvisit).imp_left .cons_text
  | @followed _ site _ _ _ raw _ _ _ _ _ _ _ _ hraw _ _ ihclauses ihrest =>
    intro visit hvisit
    rcases List.mem_append.mp hvisit with hvisit | hvisit
    · rcases List.mem_cons.mp hvisit with rfl | hvisit
      · exact Or.inl ⟨0, raw, rfl, rfl, rfl, rfl⟩
      · rcases ihclauses visit hvisit with hbrought | ⟨parent, hparent, hled⟩
        · exact Or.inr ⟨_, List.mem_append_left _ (List.mem_cons_self ..), hbrought.leads hraw⟩
        · exact Or.inr ⟨parent, List.mem_append_left _ (List.mem_cons_of_mem _ hparent), hled⟩
    · refine (ihrest visit hvisit).imp .cons_text ?_
      rintro ⟨parent, hparent, hled⟩
      exact ⟨parent, List.mem_append_right _ hparent, hled⟩
  | plain _ _ ih => exact fun visit hvisit => (ih visit hvisit).imp_left .cons_clause
  | leads hlead _ _ ihname ihrest =>
    intro visit hvisit
    rcases List.mem_append.mp hvisit with hvisit | hvisit
    · refine (ihname visit hvisit).imp (.of_name hlead) ?_
      rintro ⟨parent, hparent, hled⟩
      exact ⟨parent, List.mem_append_left _ hparent, hled⟩
    · refine (ihrest visit hvisit).imp .cons_clause ?_
      rintro ⟨parent, hparent, hled⟩
      exact ⟨parent, List.mem_append_right _ hparent, hled⟩

/-- The first visit is the root. -/
theorem Resolved.trail_head (h : Resolved resolver options visits) :
    ∀ root ∈ visits.head?, root.trail = [] := by
  cases h with
  | nothing => exact fun root hroot => nomatch hroot
  | root _ _ =>
    rintro root hroot
    obtain rfl := Option.some.inj hroot
    rfl

/-- The first record is not deep at all, and has been published by the domain itself. -/
theorem Resolved.site_head (h : Resolved resolver options visits) :
    ∀ root ∈ visits.head?, root.record.depth = 0 ∧ root.record.source = root.record.domain := by
  cases h with
  | nothing => exact fun root hroot => nomatch hroot
  | root _ _ =>
    rintro root hroot
    obtain rfl := Option.some.inj hroot
    exact ⟨rfl, rfl⟩

/-- Another visit leads to every visit but the first one. -/
theorem Resolved.exists_leads (h : Resolved resolver options visits) :
    ∀ visit ∈ visits.tail, ∃ parent ∈ visits, parent.Leads resolver visit := by
  cases h with
  | nothing => exact List.forall_mem_nil _
  | root hraw hclauses =>
    intro visit hvisit
    rcases hclauses.brought_or_leads visit hvisit with hbrought | ⟨parent, hparent, hled⟩
    · exact ⟨_, List.mem_cons_self .., hbrought.leads hraw⟩
    · exact ⟨parent, List.mem_cons_of_mem _ hparent, hled⟩

/-- The trail of a visit tells its parent and the step from there. -/
theorem Resolved.exists_ledTo_of_trail_eq (h : Resolved resolver options visits) {visit : Visit}
    (hvisit : visit ∈ visits) {trail : List Step} {step : Step}
    (htrail : visit.trail = trail ++ [step]) :
    ∃ parent ∈ visits, ∃ target texts, parent.trail = trail ∧
      parent.LedTo resolver step target texts visit := by
  have hroot := h.trail_head
  have hleads := h.exists_leads
  cases visits with
  | nil => cases hvisit
  | cons root below =>
    rcases List.mem_cons.mp hvisit with rfl | hvisit
    · rw [hroot visit rfl] at htrail
      exact absurd htrail.symm (List.append_ne_nil_of_right_ne_nil _ (List.cons_ne_nil _ _))
    · obtain ⟨parent, hparent, step', target, texts, hled⟩ := hleads visit hvisit
      have htrail' := hled.trail_eq
      rw [htrail] at htrail'
      obtain ⟨rfl, rfl⟩ := List.append_singleton_inj.mp htrail'
      exact ⟨parent, hparent, target, texts, rfl, hled⟩

/-- At most one visit leads to another one. -/
theorem Resolved.eq_of_leads (h : Resolved resolver options visits) {x y visit : Visit}
    (hx : x ∈ visits) (hy : y ∈ visits) (hxled : x.Leads resolver visit)
    (hyled : y.Leads resolver visit) : x = y := by
  obtain ⟨s, _, _, hxled⟩ := hxled
  obtain ⟨t, _, _, hyled⟩ := hyled
  have htrail : x.trail ++ [s] = y.trail ++ [t] := hxled.trail_eq.symm.trans hyled.trail_eq
  exact h.eq_of_trail_eq hx hy (List.append_singleton_inj.mp htrail).1

/-- Exactly one visit leads to every visit but the first one. -/
theorem Resolved.existsUnique_leads (h : Resolved resolver options visits) :
    ∀ visit ∈ visits.tail, ∃! parent, parent ∈ visits ∧ parent.Leads resolver visit := by
  intro visit hvisit
  obtain ⟨parent, hparent, hled⟩ := h.exists_leads visit hvisit
  exact ⟨parent, ⟨hparent, hled⟩, fun other hother => h.eq_of_leads hother.1 hparent hother.2 hled⟩

/-! ## From the root downwards -/

/-- What holds of the first visit, and of every visit that one of which it holds leads to, holds of
all visits. -/
theorem Resolved.forall_of_leads (h : Resolved resolver options visits) {motive : Visit → Prop}
    (hroot : ∀ root ∈ visits.head?, motive root)
    (hleads : ∀ parent ∈ visits, ∀ child ∈ visits, parent.Leads resolver child → motive parent →
      motive child) :
    ∀ visit ∈ visits, motive visit := by
  intro visit hvisit
  induction hlength : visit.trail.length generalizing visit with
  | zero =>
    cases visits with
    | nil => cases hvisit
    | cons root below =>
      have htrail : root.trail = visit.trail := by
        rw [h.trail_head root rfl, List.eq_nil_of_length_eq_zero hlength]
      rw [← h.eq_of_trail_eq (List.mem_cons_self ..) hvisit htrail]
      exact hroot root rfl
  | succ n ih =>
    have hne : visit.trail ≠ [] := List.ne_nil_of_length_eq_add_one hlength
    obtain ⟨parent, hparent, target, texts, htrail, hled⟩ := h.exists_ledTo_of_trail_eq hvisit
      (List.dropLast_append_getLast hne).symm
    refine hleads parent hparent visit hvisit ⟨_, target, texts, hled⟩ (ih parent hparent ?_)
    rw [htrail, List.length_dropLast, hlength]
    rfl

end Expansion

end SenderPolicy
