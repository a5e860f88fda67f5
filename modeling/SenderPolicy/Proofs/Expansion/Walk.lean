import SenderPolicy.Policy.Expansion

/-!
# What a walk yields

A walk is run on the keys of the names expanded so far.  If no lookup ends it, it yields a value
and the keys afterwards; `Yields` is that relation, and everything that is proved about the records
of a resolution starts from it.

* `yields_bind`: a walk in two parts yields what its second part yields after its first.
* `yields_tolerating`: a lookup either has an answer, which is used, or a tolerated failure, which
  is noted and changes nothing else.
* `Yields.cons_of_mapM`: a row of walks is run from left to right, on one set of keys.

The other half is `Total`: a walk that yields something whatever was expanded before it.  Where
failures are tolerated every walk is of that kind, and this is not said with the relation, since
a relation that holds of nothing would satisfy every law above.
-/

namespace SenderPolicy

namespace Traced

variable {ε α β : Type}

theorem outcome_bind_eq_ok {x : Traced ε α} {next : α → Traced ε β} {b : β} :
    (x >>= next).outcome = .ok b ↔ ∃ a, x.outcome = .ok a ∧ (next a).outcome = .ok b := by
  cases hx : x.outcome with
  | error e => simp [bind_of_error hx]
  | ok a => simp [bind_of_ok hx]

theorem outcome_ofExcept (x : Except ε α) : (ofExcept x).outcome = x := rfl

theorem outcome_mapError_eq_ok {δ : Type} {f : ε → δ} {x : Traced ε α} {a : α} :
    (x.mapError f).outcome = .ok a ↔ x.outcome = .ok a := by
  rw [mapError]
  cases x.outcome with
  | error e => exact ⟨nofun, nofun⟩
  | ok b =>
    constructor
    · intro h
      cases h
      rfl
    · intro h
      cases h
      rfl

theorem queries_map (f : α → β) (x : Traced ε α) : (f <$> x).queries = x.queries := by
  rw [map_eq_pure_bind]
  cases hx : x.outcome with
  | error e => rw [bind_of_error hx]
  | ok a => rw [bind_of_ok hx, queries_pure, List.append_nil]

theorem outcome_map (f : α → β) (x : Traced ε α) : (f <$> x).outcome = x.outcome.map f := by
  rw [map_eq_pure_bind]
  cases hx : x.outcome with
  | error e => rw [bind_of_error hx]; rfl
  | ok a => rw [bind_of_ok hx]; rfl

end Traced

/-- What a row finds is what its first part finds and then what the rest of it finds. -/
theorem Findings.join_mapM_cons {α : Type} {m : Type → Type} [Monad m] [LawfulMonad m]
    (f : α → m Findings) (a : α) (as : List α) :
    Findings.join <$> (a :: as).mapM f =
      f a >>= fun first => (first ++ ·) <$> Findings.join <$> as.mapM f := by
  simp only [List.mapM_cons, join_cons, map_eq_pure_bind, bind_assoc, pure_bind]

namespace Expansion

variable {α β : Type}

/-- Run on the keys in front of the value, the walk yields the value and the keys behind it. -/
def Yields (walk : Walk α) (visited : List String) (a : α) (visited' : List String) : Prop :=
  (walk.run visited).outcome = .ok (a, visited')

/-- The walk yields something, whatever was expanded before. -/
def Total (walk : Walk α) : Prop := ∀ visited, ∃ a visited', Yields walk visited a visited'

/-! ## The parts of a walk -/

theorem yields_pure {a b : α} {visited visited' : List String} :
    Yields (pure a) visited b visited' ↔ b = a ∧ visited' = visited := by
  simp only [Yields, StateT.run_pure, Traced.outcome_pure, Except.ok.injEq, Prod.mk.injEq]
  exact and_congr eq_comm eq_comm

theorem yields_bind {walk : Walk α} {next : α → Walk β} {visited visited' : List String} {b : β} :
    Yields (walk >>= next) visited b visited' ↔
      ∃ a between, Yields walk visited a between ∧ Yields (next a) between b visited' := by
  simp only [Yields, StateT.run_bind, Traced.outcome_bind_eq_ok, Prod.exists]

/-- The questions of a walk in two parts are those of its first part and those of its second. -/
theorem queries_bind {walk : Walk α} {next : α → Walk β} {visited between : List String} {a : α}
    (h : Yields walk visited a between) : ((walk >>= next).run visited).queries =
      (walk.run visited).queries ++ ((next a).run between).queries := by
  rw [StateT.run_bind, Traced.bind_of_ok h]

theorem yields_get {visited seen visited' : List String} :
    Yields get visited seen visited' ↔ seen = visited ∧ visited' = visited := by
  simp only [Yields, StateT.run_get, Traced.outcome_pure, Except.ok.injEq, Prod.mk.injEq]
  exact and_congr eq_comm eq_comm

theorem yields_modify {f : List String → List String} {visited visited' : List String}
    {u : PUnit} : Yields (modify f) visited u visited' ↔ visited' = f visited := by
  simp only [Yields, StateT.run_modify, Traced.outcome_pure, Except.ok.injEq, Prod.mk.injEq,
    true_and]
  exact eq_comm

/-- A lookup changes no keys. -/
theorem yields_liftM {lookup : Traced LookupError α} {visited visited' : List String} {a : α} :
    Yields (liftM lookup) visited a visited' ↔ lookup.outcome = .ok a ∧ visited' = visited := by
  have hrun : (liftM lookup : Walk α).run visited = lookup >>= fun a => pure (a, visited) := rfl
  rw [Yields, hrun, Traced.outcome_bind_eq_ok]
  simp only [Traced.outcome_pure, Except.ok.injEq, Prod.mk.injEq]
  constructor
  · rintro ⟨b, hb, rfl, rfl⟩
    exact ⟨hb, rfl⟩
  · rintro ⟨ha, rfl⟩
    exact ⟨a, ha, rfl, rfl⟩

/-- A lookup that is used has an answer, or a failure that is tolerated and noted. -/
theorem yields_tolerating {policy : FailurePolicy} {target : String}
    {lookup : Traced LookupError α} {use : α → Walk Findings} {visited visited' : List String}
    {f : Findings} :
    Yields (tolerating policy target lookup use) visited f visited' ↔
      (∃ a, lookup.outcome = .ok a ∧ Yields (use a) visited f visited') ∨
        ∃ failure, lookup.outcome = .error failure ∧ policy = .tolerate ∧
          f = .ofIssue (.lookupFailed target failure.message) ∧ visited' = visited := by
  have hattempt : (lookup.attempt : Traced LookupError _).outcome = .ok lookup.outcome := rfl
  rw [tolerating, yields_bind]
  simp only [yields_liftM, hattempt, Except.ok.injEq]
  cases hlookup : lookup.outcome with
  | ok a =>
    constructor
    · rintro ⟨b, between, ⟨rfl, rfl⟩, hnext⟩
      exact Or.inl ⟨a, rfl, hnext⟩
    · rintro (⟨b, hb, hnext⟩ | ⟨failure, hfailure, -⟩)
      · cases hb
        exact ⟨.ok a, visited, ⟨rfl, rfl⟩, hnext⟩
      · cases hfailure
  | error failure =>
    cases policy with
    | abort =>
      constructor
      · rintro ⟨b, between, ⟨rfl, rfl⟩, hnext⟩
        have hfail : (Traced.fail failure : Traced LookupError Findings).outcome = .ok f :=
          (yields_liftM.mp hnext).1
        cases hfail
      · rintro (⟨b, hb, -⟩ | ⟨_, -, habort, -⟩)
        · cases hb
        · cases habort
    | tolerate =>
      constructor
      · rintro ⟨b, between, ⟨rfl, rfl⟩, hnext⟩
        obtain ⟨hf, hvisited⟩ := yields_pure.mp hnext
        exact Or.inr ⟨failure, rfl, rfl, hf, hvisited⟩
      · rintro (⟨b, hb, -⟩ | ⟨_, hfailure, -, rfl, rfl⟩)
        · cases hb
        · cases hfailure
          exact ⟨.error failure, _, ⟨rfl, rfl⟩, yields_pure.mpr ⟨rfl, rfl⟩⟩

/-- A name that was expanded before is noted as a cycle, and nothing is done about it. -/
theorem yields_unlessExpanded {target : String} {next : Walk Findings}
    {visited visited' : List String} {f : Findings} :
    Yields (unlessExpanded target next) visited f visited' ↔
      (Name.key target ∈ visited ∧ f = .ofIssue (.cycleDetected target) ∧ visited' = visited) ∨
        (Name.key target ∉ visited ∧ Yields next visited f visited') := by
  simp only [unlessExpanded, yields_bind, yields_get]
  by_cases hmem : Name.key target ∈ visited
  · constructor
    · rintro ⟨seen, between, ⟨rfl, rfl⟩, h⟩
      rw [if_pos hmem] at h
      exact Or.inl ⟨hmem, yields_pure.mp h⟩
    · rintro (⟨-, rfl, rfl⟩ | ⟨hnew, -⟩)
      · exact ⟨_, _, ⟨rfl, rfl⟩, by rw [if_pos hmem]; exact yields_pure.mpr ⟨rfl, rfl⟩⟩
      · exact absurd hmem hnew
  · constructor
    · rintro ⟨seen, between, ⟨rfl, rfl⟩, h⟩
      rw [if_neg hmem] at h
      exact Or.inr ⟨hmem, h⟩
    · rintro (⟨hvisited, -⟩ | ⟨-, h⟩)
      · exact absurd hvisited hmem
      · exact ⟨_, _, ⟨rfl, rfl⟩, by rw [if_neg hmem]; exact h⟩

/-! ## Rows of walks -/

theorem Yields.eq_of_mapM_nil {f : α → Walk β} {visited visited' : List String} {bs : List β}
    (h : Yields ([].mapM f) visited bs visited') : bs = [] ∧ visited' = visited := by
  rw [List.mapM_nil] at h
  exact yields_pure.mp h

/-- A row of walks is run from left to right. -/
theorem Yields.cons_of_mapM {f : α → Walk β} {a : α} {as : List α} {visited visited' : List String}
    {bs : List β} (h : Yields ((a :: as).mapM f) visited bs visited') :
    ∃ b rest between, bs = b :: rest ∧ Yields (f a) visited b between ∧
      Yields (as.mapM f) between rest visited' := by
  rw [List.mapM_cons, yields_bind] at h
  obtain ⟨b, between, hb, h⟩ := h
  obtain ⟨rest, after, hrest, h⟩ := yields_bind.mp h
  obtain ⟨rfl, rfl⟩ := yields_pure.mp h
  exact ⟨b, rest, between, rfl, hb, hrest⟩

/-- A text is followed clause by clause, and its record is made of what they found together. -/
theorem follow_eq_join (resolver : Resolver) (options : ResolveOptions)
    (expand : Site → String → Walk Findings) (site : Site) (raw : String) (statement : Statement) :
    follow resolver options expand site raw statement = do
      modify (Name.key site.source :: ·)
      let findings ← Findings.join <$>
        statement.clauses.mapM (ofClause resolver options expand site)
      return record site raw statement findings :: findings.nested := by
  simp only [follow, map_eq_pure_bind, bind_assoc, pure_bind]

/-! ## Walks that always yield something -/

theorem total_pure (a : α) : Total (pure a) :=
  fun visited => ⟨a, visited, yields_pure.mpr ⟨rfl, rfl⟩⟩

theorem Total.bind {walk : Walk α} {next : α → Walk β} (h : Total walk)
    (hnext : ∀ a, Total (next a)) : Total (walk >>= next) := by
  intro visited
  obtain ⟨a, between, ha⟩ := h visited
  obtain ⟨b, visited', hb⟩ := hnext a between
  exact ⟨b, visited', yields_bind.mpr ⟨a, between, ha, hb⟩⟩

theorem Total.mapM {f : α → Walk β} (as : List α) (h : ∀ a, Total (f a)) : Total (as.mapM f) := by
  induction as with
  | nil =>
    rw [List.mapM_nil]
    exact total_pure []
  | cons a as ih =>
    rw [List.mapM_cons]
    exact (h a).bind fun b => ih.bind fun bs => total_pure (b :: bs)

/-- A lookup whose failure is tolerated never ends a walk. -/
theorem Total.tolerating {target : String} {lookup : Traced LookupError α}
    {use : α → Walk Findings} (h : ∀ a, Total (use a)) :
    Total (tolerating .tolerate target lookup use) := by
  intro visited
  cases hlookup : lookup.outcome with
  | ok a =>
    obtain ⟨f, visited', hf⟩ := h a visited
    exact ⟨f, visited', yields_tolerating.mpr (Or.inl ⟨a, hlookup, hf⟩)⟩
  | error failure =>
    exact ⟨_, visited, yields_tolerating.mpr (Or.inr ⟨failure, hlookup, rfl, rfl, rfl⟩)⟩

theorem Total.unlessExpanded {target : String} {next : Walk Findings} (h : Total next) :
    Total (unlessExpanded target next) := by
  intro visited
  by_cases hmem : Name.key target ∈ visited
  · exact ⟨_, visited, yields_unlessExpanded.mpr (Or.inl ⟨hmem, rfl, rfl⟩)⟩
  · obtain ⟨f, visited', hf⟩ := h visited
    exact ⟨f, visited', yields_unlessExpanded.mpr (Or.inr ⟨hmem, hf⟩)⟩

end Expansion

end SenderPolicy
