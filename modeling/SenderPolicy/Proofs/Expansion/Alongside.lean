import SenderPolicy.Proofs.Expansion.Abort

/-!
# Two runs side by side

Two resolvers that differ in what they answer may still lead to the same questions.
`Traced.Alongside` says that of two runs: they ask the same, they fail alike if they fail, and what
they come to is related.  It is closed under `bind`, because what is asked next is asked by related
values.

For walks the keys of the names expanded so far are the same on both sides, before and after
(`Expansion.Alongside`).  So a name that one of two runs expands again and the other one does not
would be found out.
-/

namespace SenderPolicy

variable {α α' β β' : Type}

namespace Traced

variable {ε δ : Type}

/-- The same questions, and the same failure or related values. -/
inductive Alongside (related : α → α' → Prop) : Traced ε α → Traced ε α' → Prop where
  | ok {a : α} {a' : α'} {queries : List Query} (h : related a a') :
      Alongside related ⟨.ok a, queries⟩ ⟨.ok a', queries⟩
  | error {e : ε} {queries : List Query} : Alongside related ⟨.error e, queries⟩ ⟨.error e, queries⟩

variable {related : α → α' → Prop} {related' : β → β' → Prop}

theorem alongside_pure {a : α} {a' : α'} (h : related a a') :
    Alongside related (pure a : Traced ε α) (pure a') := .ok h

/-- A run is alongside itself. -/
theorem alongside_refl {related : α → α → Prop} (h : ∀ a, related a a) (x : Traced ε α) :
    Alongside related x x := by
  obtain ⟨outcome, queries⟩ := x
  cases outcome with
  | ok a => exact .ok (h a)
  | error e => exact .error

theorem Alongside.bind {x : Traced ε α} {x' : Traced ε α'} {next : α → Traced ε β}
    {next' : α' → Traced ε β'} (h : Alongside related x x')
    (hnext : ∀ a a', related a a' → Alongside related' (next a) (next' a')) :
    Alongside related' (x >>= next) (x' >>= next') := by
  cases h with
  | error => exact .error
  | @ok a a' queries ha =>
    rw [bind_def, bind_def, Traced.bind, Traced.bind]
    dsimp only
    have hafter := hnext a a' ha
    revert hafter
    generalize next a = y
    generalize next' a' = y'
    intro hafter
    cases hafter with
    | ok hb => exact .ok hb
    | error => exact .error

theorem Alongside.mapError {x : Traced ε α} {x' : Traced ε α'} (h : Alongside related x x')
    (wrap : ε → δ) : Alongside related (x.mapError wrap) (x'.mapError wrap) := by
  cases h with
  | ok h => exact .ok h
  | error => exact .error

theorem Alongside.map {x : Traced ε α} {x' : Traced ε α'} {f : α → β} {f' : α' → β'}
    (h : Alongside related x x') (hf : ∀ a a', related a a' → related' (f a) (f' a')) :
    Alongside related' (f <$> x) (f' <$> x') := by
  rw [map_eq_pure_bind, map_eq_pure_bind]
  exact h.bind fun a a' ha => .ok (hf a a' ha)

end Traced

namespace Expansion

/-! ## Walks -/

/-- On every set of keys the walks ask the same, and fail alike, or come to related values and to the
same keys. -/
def Alongside (related : α → α' → Prop) (walk : Walk α) (walk' : Walk α') : Prop :=
  ∀ visited, Traced.Alongside (fun end_ end' => related end_.1 end'.1 ∧ end_.2 = end'.2)
    (walk.run visited) (walk'.run visited)

variable {related : α → α' → Prop} {related' : β → β' → Prop}

theorem alongside_pure {a : α} {a' : α'} (h : related a a') :
    Alongside related (pure a) (pure a') := fun _ => .ok ⟨h, rfl⟩

theorem Alongside.bind {walk : Walk α} {walk' : Walk α'} {next : α → Walk β} {next' : α' → Walk β'}
    (h : Alongside related walk walk')
    (hnext : ∀ a a', related a a' → Alongside related' (next a) (next' a')) :
    Alongside related' (walk >>= next) (walk' >>= next') := by
  intro visited
  rw [StateT.run_bind, StateT.run_bind]
  refine (h visited).bind ?_
  rintro ⟨a, between⟩ ⟨a', between'⟩ ⟨ha, hkeys⟩
  dsimp only at hkeys
  subst hkeys
  exact hnext a a' ha between

theorem Alongside.map {walk : Walk α} {walk' : Walk α'} {f : α → β} {f' : α' → β'}
    (h : Alongside related walk walk') (hf : ∀ a a', related a a' → related' (f a) (f' a')) :
    Alongside related' (f <$> walk) (f' <$> walk') := by
  rw [map_eq_pure_bind, map_eq_pure_bind]
  exact h.bind fun a a' ha => alongside_pure (hf a a' ha)

theorem Alongside.mono {related related' : α → α' → Prop} {walk : Walk α} {walk' : Walk α'}
    (h : Alongside related walk walk') (hmono : ∀ a a', related a a' → related' a a') :
    Alongside related' walk walk' := by
  intro visited
  have hend := h visited
  revert hend
  generalize walk.run visited = run
  generalize walk'.run visited = run'
  rintro (⟨ha, hkeys⟩ | _)
  · exact .ok ⟨hmono _ _ ha, hkeys⟩
  · exact .error

/-- A walk is alongside itself. -/
theorem alongside_refl {related : α → α → Prop} (h : ∀ a, related a a) (walk : Walk α) :
    Alongside related walk walk :=
  fun visited => Traced.alongside_refl (fun end_ => ⟨h end_.1, rfl⟩) (walk.run visited)

theorem alongside_modify (f : List String → List String) :
    Alongside Eq (modify f : Walk PUnit) (modify f) := fun _ => .ok ⟨rfl, rfl⟩

/-- The questions of a lookup are asked on both sides, and so is what its answers lead to. -/
theorem Alongside.tolerating {policy : FailurePolicy} {target : String}
    {lookup : Traced LookupError α} {lookup' : Traced LookupError α'} {use : α → Walk Findings}
    {use' : α' → Walk Findings} {related' : Findings → Findings → Prop}
    (hlookup : Traced.Alongside related lookup lookup')
    (hfailed : ∀ failure : LookupError, related' (.ofIssue (.lookupFailed target failure.message))
      (.ofIssue (.lookupFailed target failure.message)))
    (huse : ∀ a a', lookup.outcome = .ok a → lookup'.outcome = .ok a' → related a a' →
      Alongside related' (use a) (use' a')) :
    Alongside related' (tolerating policy target lookup use)
      (tolerating policy target lookup' use') := by
  intro visited
  rw [run_tolerating, run_tolerating]
  cases hlookup with
  | error =>
    cases policy with
    | abort => exact .error
    | tolerate => exact .ok ⟨hfailed _, rfl⟩
  | @ok a a' queries ha =>
    have hused := huse a a' rfl rfl ha visited
    revert hused
    dsimp only
    generalize (use a).run visited = walked
    generalize (use' a').run visited = walked'
    intro hused
    cases hused with
    | ok h => exact .ok h
    | error => exact .error

theorem Alongside.unlessExpanded {target : String} {next next' : Walk Findings}
    {related : Findings → Findings → Prop}
    (hcycle : related (.ofIssue (.cycleDetected target)) (.ofIssue (.cycleDetected target)))
    (h : Alongside related next next') :
    Alongside related (unlessExpanded target next) (unlessExpanded target next') := by
  intro visited
  rw [run_unlessExpanded, run_unlessExpanded]
  split
  · exact alongside_pure hcycle visited
  · exact h visited

end Expansion

end SenderPolicy
