import SenderPolicy.Dns.Record

/-!
# Outcomes with the lookups made on the way

`Traced ε α` pairs an outcome with the list of the questions that were put to the resolver, in
order.  The questions of a computation that fails are kept, the failing one included, so the list
says exactly what was asked, whatever came of it.

A resolver is a function, so a trace does not have to be threaded through as a state: each
computation has its own, and `bind` appends them.  The monad laws are those of list concatenation.
-/

namespace SenderPolicy

/-- One question: a name and a record type. -/
structure Query where
  name : String
  type : RecordType
  deriving DecidableEq, Repr

/-- An outcome, and the questions asked on the way to it. -/
structure Traced (ε α : Type) where
  outcome : Except ε α
  queries : List Query

namespace Traced

variable {ε δ α β : Type}

/-- Run `next` on the value, if there is one; its questions come after those already asked. -/
def bind (x : Traced ε α) (next : α → Traced ε β) : Traced ε β :=
  match x.outcome with
  | .ok a => ⟨(next a).outcome, x.queries ++ (next a).queries⟩
  | .error e => ⟨.error e, x.queries⟩

instance : Monad (Traced ε) where
  pure a := ⟨.ok a, []⟩
  bind := bind

/-- Fail without asking anything. -/
def fail (e : ε) : Traced ε α := ⟨.error e, []⟩

/-- An outcome that no question was needed for. -/
def ofExcept (x : Except ε α) : Traced ε α := ⟨x, []⟩

/-- The same questions, with a failure turned into an ordinary value. -/
def attempt (x : Traced ε α) : Traced δ (Except ε α) := ⟨.ok x.outcome, x.queries⟩

/-- The same questions, with a failure restated. -/
def mapError (f : ε → δ) (x : Traced ε α) : Traced δ α := ⟨x.outcome.mapError f, x.queries⟩

theorem bind_def (x : Traced ε α) (next : α → Traced ε β) : x >>= next = x.bind next := rfl

@[simp] theorem outcome_pure (a : α) : (pure a : Traced ε α).outcome = .ok a := rfl

@[simp] theorem queries_pure (a : α) : (pure a : Traced ε α).queries = [] := rfl

theorem bind_of_ok {x : Traced ε α} {a : α} (h : x.outcome = .ok a) (next : α → Traced ε β) :
    x >>= next = ⟨(next a).outcome, x.queries ++ (next a).queries⟩ := by
  rw [bind_def, bind, h]

theorem bind_of_error {x : Traced ε α} {e : ε} (h : x.outcome = .error e)
    (next : α → Traced ε β) : x >>= next = ⟨.error e, x.queries⟩ := by
  rw [bind_def, bind, h]

instance : LawfulMonad (Traced ε) := LawfulMonad.mk' (Traced ε)
  (by
    rintro α ⟨outcome, queries⟩
    cases outcome <;> simp [Functor.map, bind])
  (by
    intro α β a next
    simp [Bind.bind, Pure.pure, bind])
  (by
    rintro α β γ ⟨outcome, queries⟩ next last
    cases outcome with
    | error e => rfl
    | ok a =>
      simp only [Bind.bind, bind]
      split <;> simp_all)

end Traced

end SenderPolicy
