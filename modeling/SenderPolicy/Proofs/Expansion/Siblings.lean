import Mathlib
import SenderPolicy.Dns.Zone
import SenderPolicy.Proofs.Expansion.Trail
import SenderPolicy.Proofs.Expansion.Visited

/-!
# Records under one name

A name is expanded at most once: two records under one key are records of two texts of a single
answer, for which a single clause has asked (`siblings_of_key_eq`).

The keys expanded so far are consulted in front of a name and extended behind it, text by text, so
while the texts of a name are read its key is there already.  That is why `Task.Admits` has two
cases where texts are read, and why the induction here goes over pairs: the second of two visits is
either new or a sibling of the first.

That no chain of records repeats a key follows, since a record is no sibling of its ancestors.
-/

namespace SenderPolicy

namespace Expansion

variable {resolver : Resolver} {options : ResolveOptions} {levels : Nat} {task : Task}
  {visited visited' : List String} {outcomes : List (Option Outcome)} {visits : List Visit}

/-- The visits are on trails that part at two texts of one clause, and under one name. -/
def Visit.ShareAnswer (x y : Visit) : Prop :=
  ∃ trail clause k l, k ≠ l ∧ x.trail = trail ++ [⟨clause, k⟩] ∧ y.trail = trail ++ [⟨clause, l⟩] ∧
    x.record.source = y.record.source ∧ x.record.depth = y.record.depth

/-- Visits of a course under one key share an answer. -/
theorem Course.pairwise_shareAnswer
    (h : Course resolver options levels task visited outcomes visits visited') :
    visits.Pairwise fun x y => x.key = y.key → x.ShareAnswer y := by
  induction h with
  | cycle | tooDeep | failed | missing | noText | noClause => exact List.Pairwise.nil
  | answered _ _ _ _ ih => exact ih
  | malformed _ _ ih => exact ih
  | plain _ _ ih => exact ih
  | @followed _ site trail index text _ _ _ _ _ _ _ _ _ _ hclauses hrest ihclauses ihrest =>
    have hbelow := hclauses.admits
    have hlater := hrest.admits
    refine List.pairwise_append.mpr ⟨List.pairwise_cons.mpr ⟨fun y hy heq => ?_, ihclauses⟩, ihrest,
      fun x hx y hy heq => ?_⟩
    · -- what a text leads to is under other keys than the text
      refine absurd ?_ (hbelow y hy)
      rw [← heq]
      exact List.mem_cons_self ..
    · -- what comes after a text is a sibling of the text, or under a key not yet expanded
      rcases List.mem_cons.mp hx with rfl | hx
      · rcases hlater y hy with ⟨k, hk, htrail, hsource, hdepth⟩ | hkey
        · exact ⟨trail, index, text, k, Nat.ne_of_lt hk, rfl, htrail, hsource.symm, hdepth.symm⟩
        · refine absurd ?_ hkey
          rw [← heq]
          exact List.mem_cons_self ..
      · rcases hlater y hy with ⟨k, hk, htrail, hsource, hdepth⟩ | hkey
        · refine absurd ?_ (hbelow x hx)
          rw [heq, Visit.key, hsource]
          exact List.mem_cons_self ..
        · refine absurd (List.mem_cons_of_mem _ ?_) hkey
          exact hclauses.mem_visited_iff.mpr (Or.inl ⟨x, hx, heq⟩)
  | leads _ hname hrest ihname ihrest =>
    refine List.pairwise_append.mpr ⟨ihname, ihrest, fun x hx y hy heq => ?_⟩
    refine absurd ?_ (hrest.admits y hy)
    exact hname.mem_visited_iff.mpr (Or.inl ⟨x, hx, heq⟩)

/-- No other record is under the key of the first one. -/
theorem Resolved.key_ne_of_mem_tail (h : Resolved resolver options visits) :
    ∀ root ∈ visits.head?, ∀ visit ∈ visits.tail, visit.key ≠ root.key := by
  cases h with
  | nothing => exact fun root hroot => nomatch hroot
  | root _ hclauses =>
    rintro root hroot visit hvisit heq
    obtain rfl := Option.some.inj hroot
    exact hclauses.admits visit hvisit (List.mem_singleton.mpr heq)

theorem Resolved.pairwise_shareAnswer (h : Resolved resolver options visits) :
    visits.Pairwise fun x y => x.key = y.key → x.ShareAnswer y := by
  have hroot := h.key_ne_of_mem_tail
  cases h with
  | nothing => exact List.Pairwise.nil
  | root _ hclauses =>
    refine List.pairwise_cons.mpr ⟨fun y hy heq => ?_, hclauses.pairwise_shareAnswer⟩
    exact absurd heq.symm (hroot _ rfl y hy)

/-! ## The parent of siblings -/

/-- The two visits are to texts at two positions in one answer, for which one clause of one record
has asked. -/
def Siblings (resolver : Resolver) (visits : List Visit) (x y : Visit) : Prop :=
  x.record.source = y.record.source ∧ x.record.depth = y.record.depth ∧
    ∃ parent ∈ visits, ∃ clause target texts k l, k ≠ l ∧
      parent.LedTo resolver ⟨clause, k⟩ target texts x ∧
      parent.LedTo resolver ⟨clause, l⟩ target texts y

theorem Resolved.siblings_of_shareAnswer (h : Resolved resolver options visits) {x y : Visit}
    (hx : x ∈ visits) (hy : y ∈ visits) (hshare : x.ShareAnswer y) :
    Siblings resolver visits x y := by
  obtain ⟨trail, clause, k, l, hne, hxtrail, hytrail, hsource, hdepth⟩ := hshare
  obtain ⟨parent, hparent, target, texts, hptrail, hxled⟩ := h.exists_ledTo_of_trail_eq hx hxtrail
  obtain ⟨parent', hparent', _, _, hptrail', hyled⟩ := h.exists_ledTo_of_trail_eq hy hytrail
  obtain rfl : parent = parent' := h.eq_of_trail_eq hparent hparent' (hptrail.trans hptrail'.symm)
  obtain ⟨rfl, rfl⟩ := hxled.eq_of_clause_eq hyled
  exact ⟨hsource, hdepth, parent, hparent, clause, target, texts, k, l, hne, hxled, hyled⟩

/-! ## Ancestors -/

/-- The trail of a visit is longer than those of its ancestors. -/
theorem length_trail_lt_of_transGen {x y : Visit}
    (h : Relation.TransGen (Visit.Leads resolver) x y) : x.trail.length < y.trail.length := by
  have hstep : ∀ {x y : Visit}, x.Leads resolver y → x.trail.length < y.trail.length := by
    rintro x y ⟨step, target, texts, hled⟩
    rw [hled.trail_eq, List.length_append]
    exact Nat.lt_succ_self _
  induction h with
  | single hxy => exact hstep hxy
  | tail _ hyz ih => exact Nat.lt_trans ih (hstep hyz)

/-- Visits under one key are equally far from the root. -/
theorem Resolved.length_trail_eq_of_key_eq (h : Resolved resolver options visits) {x y : Visit}
    (hx : x ∈ visits) (hy : y ∈ visits) (heq : x.key = y.key) :
    x.trail.length = y.trail.length := by
  have hpairwise : visits.Pairwise fun x y => x.key = y.key → x.trail.length = y.trail.length := by
    refine h.pairwise_shareAnswer.imp fun hshare heq => ?_
    obtain ⟨trail, clause, k, l, -, hxtrail, hytrail, -⟩ := hshare heq
    rw [hxtrail, hytrail, List.length_append, List.length_append]
    rfl
  refine hpairwise.forall_of_forall_of_flip (fun _ _ _ => rfl) ?_ hx hy heq
  exact hpairwise.imp fun hxy heq => (hxy heq.symm).symm

/-- The visits are those of a resolution that has expanded no name twice. -/
structure ExpandedOnce (resolver : Resolver) (options : ResolveOptions) (visits : List Visit) :
    Prop where
  /-- Each visit is the reading of a text. -/
  reads : ∀ visit ∈ visits, ∃ statement, visit.Reads resolver options statement
  /-- Another visit leads to each but the first one. -/
  parent : ∀ visit ∈ visits.tail, ∃ parent ∈ visits, parent.Leads resolver visit
  /-- No two visits are on one trail. -/
  distinct : visits.Pairwise fun x y => x.trail ≠ y.trail
  /-- Any two visits under one key are siblings. -/
  siblings : visits.Pairwise fun x y => x.key = y.key → Siblings resolver visits x y
  /-- No other visit is under the key of the first one. -/
  root : ∀ root ∈ visits.head?, ∀ visit ∈ visits.tail, visit.key ≠ root.key
  /-- No visit is under the key of an ancestor. -/
  ancestor : ∀ x ∈ visits, ∀ y ∈ visits, Relation.TransGen (Visit.Leads resolver) x y →
    x.key ≠ y.key

/-- A name is expanded at most once per resolution: two records of a result under one key are
records of two texts in one answer, which one clause of one record has asked for. -/
theorem siblings_of_key_eq {records : List PolicyRecord} (h : IsResult resolver options records) :
    ∃ visits : List Visit, visits.map (·.record) = records ∧
      ExpandedOnce resolver options visits := by
  obtain ⟨visits, hvisits, rfl⟩ := exists_resolved_of_isResult h
  refine ⟨visits, rfl, ?_⟩
  constructor
  case reads => exact hvisits.exists_reads
  case parent => exact hvisits.exists_leads
  case distinct => exact List.pairwise_map.mp hvisits.nodup_trail
  case siblings =>
    exact hvisits.pairwise_shareAnswer.imp_of_mem fun hx hy hshare heq =>
      hvisits.siblings_of_shareAnswer hx hy (hshare heq)
  case root => exact hvisits.key_ne_of_mem_tail
  case ancestor =>
    intro x hx y hy hancestor heq
    have hlength := hvisits.length_trail_eq_of_key_eq hx hy heq
    exact absurd hlength (Nat.ne_of_lt (length_trail_lt_of_transGen hancestor))

/-- A name with two texts, both of which lead back, one of them under another spelling. -/
theorem siblings_of_key_eq_of_zone :
    let resolver := Zone.resolver
      [⟨"b", .txt, .ok [.text "v=spf1 include:a", .text "v=spf1 redirect=B."]⟩]
    let text (source raw : String) (depth : Nat) (tag : EntryTag) (target : String)
        (issues : List Issue) : PolicyRecord :=
      ⟨"a", source, raw, "spf1", depth, .neutral, [⟨"a", source, tag, target⟩], [], [], none,
        issues⟩
    let records := [text "a" "v=spf1 include:b" 0 .inclusion "b" [],
      text "b" "v=spf1 include:a" 1 .inclusion "a" [.cycleDetected "a"],
      text "b" "v=spf1 redirect=B." 1 .redirection "B." [.cycleDetected "B."]]
    IsResult resolver {} records ∧
      ∃ visits : List Visit, visits.map (·.record) = records ∧
        ExpandedOnce resolver {} visits := by
  intro resolver text records
  have hresult : IsResult resolver {} records := by
    refine Or.inl ⟨"a", "v=spf1 include:b", outcome_parseRecord_eq_ok.mpr
      ⟨"a", ⟨"spf1", .neutral, [⟨"v=spf1", .version "spf1"⟩, ⟨"include:b", .inclusion "b"⟩]⟩, rfl,
        by decide +kernel, by decide +kernel⟩⟩
  exact ⟨hresult, siblings_of_key_eq hresult⟩

end Expansion

end SenderPolicy
