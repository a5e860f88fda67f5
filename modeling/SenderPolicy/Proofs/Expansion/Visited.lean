import SenderPolicy.Proofs.Expansion.Course

/-!
# The keys of the names expanded

The only thing that the parts of a resolution share is the list of the keys expanded so far.  Here
is what a course does to it, and what it says about the visits.

* `Course.visited_eq`: the keys at the end are those of the visits, last one first, in front of
  those at the start.  So the list never holds a name without a record, and `mem_visited_iff` turns
  a question about the keys into one about the visits.
* `Course.admits`: a visit is to a name that was not expanded before.  Only the texts of one name
  share their key, and they are siblings: `Task.Admits` says which of the two a visit is.
* `Course.exists_visit_of_text`: every well-formed text of a name has a visit.
-/

namespace SenderPolicy

namespace Expansion

variable {resolver : Resolver} {options : ResolveOptions} {levels : Nat} {task : Task}
  {visited visited' : List String} {outcomes : List (Option Outcome)} {visits : List Visit}

/-! ## What becomes of the keys -/

/-- Each visit puts its key in front, and nothing else is done to the keys. -/
theorem Course.visited_eq
    (h : Course resolver options levels task visited outcomes visits visited') :
    visited' = (visits.map Visit.key).reverse ++ visited := by
  induction h with
  | cycle | tooDeep | failed | missing | noText | noClause => rfl
  | answered _ _ _ _ ih => exact ih
  | malformed _ _ ih => exact ih
  | plain _ _ ih => exact ih
  | @followed _ site _ _ _ _ _ _ _ _ _ _ _ _ _ _ _ ihclauses ihrest =>
    rw [ihrest, ihclauses, List.cons_append, List.map_cons, List.map_append, List.reverse_cons,
      List.reverse_append, List.append_assoc, List.append_assoc]
    rfl
  | leads _ _ _ ihname ihrest =>
    rw [ihrest, ihname, List.map_append, List.reverse_append, List.append_assoc]

theorem Course.mem_visited_iff
    (h : Course resolver options levels task visited outcomes visits visited') {key : String} :
    key ∈ visited' ↔ (∃ visit ∈ visits, visit.key = key) ∨ key ∈ visited := by
  rw [h.visited_eq, List.mem_append, List.mem_reverse, List.mem_map]

theorem Course.mem_visited_of_mem
    (h : Course resolver options levels task visited outcomes visits visited') {key : String}
    (hkey : key ∈ visited) : key ∈ visited' :=
  h.mem_visited_iff.mpr (Or.inr hkey)

/-! ## Which visits there can be -/

/-- A visit that the task can come to: one to a name not expanded before or, where the texts of a
name are read, the record of one of them. -/
def Task.Admits (visited : List String) (visit : Visit) : Task → Prop
  | .clauses _ _ _ _ => visit.key ∉ visited
  | .name _ _ _ _ => visit.key ∉ visited
  | .texts site trail index text _ =>
    (∃ k, text ≤ k ∧ visit.trail = trail ++ [⟨index, k⟩] ∧ visit.record.source = site.source ∧
        visit.record.depth = site.depth) ∨
      visit.key ∉ Name.key site.source :: visited

theorem Course.admits (h : Course resolver options levels task visited outcomes visits visited') :
    ∀ visit ∈ visits, task.Admits visited visit := by
  induction h with
  | cycle | tooDeep | failed | missing | noText | noClause => exact List.forall_mem_nil _
  | answered hnew _ _ _ ih =>
    intro visit hvisit
    rcases ih visit hvisit with ⟨k, -, -, hsource, -⟩ | hkey
    · rw [Task.Admits, Visit.key, hsource]
      exact hnew
    · exact fun hmem => hkey (List.mem_cons_of_mem _ hmem)
  | malformed _ _ ih =>
    intro visit hvisit
    rcases ih visit hvisit with ⟨k, hk, hrest⟩ | hkey
    · exact Or.inl ⟨k, Nat.le_of_succ_le hk, hrest⟩
    · exact Or.inr hkey
  | @followed _ site _ _ text _ _ _ visited _ _ _ _ _ _ hclauses _ ihclauses ihrest =>
    intro visit hvisit
    rcases List.mem_append.mp hvisit with hvisit | hvisit
    · rcases List.mem_cons.mp hvisit with rfl | hvisit
      · exact Or.inl ⟨text, Nat.le_refl text, rfl, rfl, rfl⟩
      · exact Or.inr (ihclauses visit hvisit)
    · rcases ihrest visit hvisit with ⟨k, hk, hrest⟩ | hkey
      · exact Or.inl ⟨k, Nat.le_of_succ_le hk, hrest⟩
      · have hsub : Name.key site.source :: visited ⊆ _ := fun _ => hclauses.mem_visited_of_mem
        exact Or.inr fun hmem => hkey (List.mem_cons_of_mem _ (hsub hmem))
  | plain _ _ ih => exact ih
  | leads _ hname _ ihname ihrest =>
    intro visit hvisit
    rcases List.mem_append.mp hvisit with hvisit | hvisit
    · exact ihname visit hvisit
    · exact fun hmem => ihrest visit hvisit (hname.mem_visited_of_mem hmem)

/-! ## Which visits there must be -/

/-- Every well-formed text of a name has a visit, on the trail that its number tells. -/
theorem Course.exists_visit_of_text {site : Site} {trail : List Step} {index : Nat}
    {raws : List String} {raw : String} {statement : Statement}
    (hraw : Statement.parse raw = .ok statement) :
    ∀ {text k : Nat} {visited : List String} {visits : List Visit},
      Course resolver options levels (.texts site trail index text raws) visited outcomes visits
        visited' →
      raws[k]? = some raw →
      ∃ below, ⟨trail ++ [⟨index, text + k⟩], recordOf resolver options site raw statement below,
        below⟩ ∈ visits := by
  induction raws with
  | nil =>
    intro text k visited visits h hk
    rw [List.getElem?_nil] at hk
    cases hk
  | cons first raws ih =>
    intro text k visited visits h hk
    cases k with
    | zero =>
      obtain rfl : first = raw := Option.some.inj hk
      cases h with
      | malformed hfirst => rw [hraw] at hfirst; cases hfirst
      | followed hfirst =>
        rw [hraw] at hfirst
        cases hfirst
        exact ⟨_, List.mem_cons_self ..⟩
    | succ k =>
      rw [List.getElem?_cons_succ] at hk
      rw [← Nat.succ_add_eq_add_succ]
      cases h with
      | malformed _ hrest => exact ih hrest hk
      | followed _ _ hrest =>
        obtain ⟨below, hmem⟩ := ih hrest hk
        exact ⟨below, List.mem_append_right _ hmem⟩

end Expansion

end SenderPolicy
