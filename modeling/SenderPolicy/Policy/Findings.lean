import SenderPolicy.Policy.Record

/-!
# What a clause contributes

Every clause of a policy adds something to each list of its record, and a clause that leads to
another policy also adds the records of that policy.  `Findings` is that contribution.  The
contribution of a row of clauses is the concatenation of theirs, and the explanation of a row is
the first one found.
-/

namespace SenderPolicy

/-- What was found on behalf of a clause, or of a row of clauses. -/
structure Findings where
  entries : List PolicyEntry := []
  addresses : List KnownAddress := []
  networks : List KnownNetwork := []
  issues : List Issue := []
  explanation : Option String := none
  nested : List PolicyRecord := []
  deriving DecidableEq

namespace Findings

/-- Nothing was found. -/
def empty : Findings := {}

/-- What was found first, and what was found after that. -/
def append (x y : Findings) : Findings where
  entries := x.entries ++ y.entries
  addresses := x.addresses ++ y.addresses
  networks := x.networks ++ y.networks
  issues := x.issues ++ y.issues
  explanation := x.explanation <|> y.explanation
  nested := x.nested ++ y.nested

instance : Append Findings := ⟨append⟩

/-- Findings in a row. -/
def join (xs : List Findings) : Findings := xs.foldr append empty

/-- A single issue. -/
def ofIssue (issue : Issue) : Findings := { issues := [issue] }

/-- A single entry. -/
def ofEntry (entry : PolicyEntry) : Findings := { entries := [entry] }

@[simp] theorem join_nil : join [] = empty := rfl

@[simp] theorem join_cons (x : Findings) (xs : List Findings) : join (x :: xs) = x ++ join xs :=
  rfl

theorem append_def (x y : Findings) : x ++ y = x.append y := rfl

@[simp] theorem empty_append (x : Findings) : empty ++ x = x := by
  simp [append_def, Findings.append, empty]

@[simp] theorem entries_join (xs : List Findings) :
    (join xs).entries = xs.flatMap (·.entries) := by
  induction xs with
  | nil => rfl
  | cons x xs ih => rw [List.flatMap_cons, ← ih]; rfl

@[simp] theorem issues_join (xs : List Findings) : (join xs).issues = xs.flatMap (·.issues) := by
  induction xs with
  | nil => rfl
  | cons x xs ih => rw [List.flatMap_cons, ← ih]; rfl

end Findings

end SenderPolicy
