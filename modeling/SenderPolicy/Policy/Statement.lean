import SenderPolicy.Policy.Term

/-!
# Policy texts

A policy text is well formed when it has at least two tokens and the last version it states is
`spf1`, in any case.  Both questions are about the text alone, so they are settled before anything
is looked up, and a text that is not well formed leaves no trace in the expansion.

Tokens are separated by the character `U+0020` and by nothing else; a tab belongs to a token.

A well-formed text states three things: its version (the last one, wherever it stands), its verdict
(the first `all`, wherever it stands) and the clauses that stand in front of that `all`.
-/

namespace SenderPolicy

/-- Why a text is not a policy. -/
inductive MalformedReason where
  /-- There are fewer than two tokens. -/
  | tooFewTokens
  /-- The last version stated is not `spf1`, or none is stated. -/
  | invalidVersion (version : Option String)
  deriving DecidableEq, Repr

/-- The message shown to the user. -/
def MalformedReason.message : MalformedReason → String
  | .tooFewTokens => "too few tokens"
  | .invalidVersion (some version) => "unsupported version " ++ version
  | .invalidVersion none => "missing version"

/-- A token and what it says. -/
structure Clause where
  token : String
  term : Term
  deriving DecidableEq, Repr

/-- A well-formed policy text, read. -/
structure Statement where
  version : String
  action : Action
  clauses : List Clause
  deriving DecidableEq, Repr

namespace Statement

/-- The tokens of a text. -/
def tokens (raw : String) : List String :=
  ((raw.toList.splitOn ' ').filter (· ≠ [])).map String.ofList

/-- The tokens of a text, with what they say. -/
def allClauses (raw : String) : List Clause :=
  (tokens raw).map fun token => ⟨token, Term.parse token⟩

/-- The last version stated. -/
def lastVersion (clauses : List Clause) : Option String :=
  (clauses.filterMap (·.term.version?)).getLast?

/-- The first verdict; a policy without one is neutral. -/
def firstAction (clauses : List Clause) : Action :=
  ((clauses.filterMap (·.term.action?)).head?).getD .neutral

/-- The clauses in front of the first `all`. -/
def active (clauses : List Clause) : List Clause :=
  clauses.takeWhile fun clause => !clause.term.isAll

/-- The one version there is. -/
def supportedVersion : String := "spf1"

/-- What a text states, or why it is not a policy. -/
def parse (raw : String) : Except MalformedReason Statement :=
  let clauses := allClauses raw
  if clauses.length < 2 then .error .tooFewTokens
  else
    match lastVersion clauses with
    | none => .error (.invalidVersion none)
    | some version =>
      if Text.equalFold version supportedVersion then
        .ok ⟨version, firstAction clauses, active clauses⟩
      else .error (.invalidVersion (some version))

/-- A text that is read states its last version, its first verdict and its active clauses. -/
theorem eq_of_parse_eq_ok {raw : String} {s : Statement} (h : parse raw = .ok s) :
    2 ≤ (allClauses raw).length ∧ lastVersion (allClauses raw) = some s.version ∧
      Text.equalFold s.version supportedVersion = true ∧
      s.action = firstAction (allClauses raw) ∧ s.clauses = active (allClauses raw) := by
  rw [parse] at h
  split at h
  · cases h
  · next hlen =>
    split at h
    · cases h
    · next version hversion =>
      split at h
      · next hfold =>
        cases h
        exact ⟨Nat.le_of_not_lt hlen, hversion, hfold, rfl, rfl⟩
      · cases h

/-- No clause that is acted on is an `all`. -/
theorem isAll_of_mem_active {clauses : List Clause} {clause : Clause}
    (h : clause ∈ active clauses) : clause.term.isAll = false := by
  have hall : (clauses.takeWhile fun c => !c.term.isAll).all (fun c => !c.term.isAll) = true :=
    List.all_takeWhile
  simpa using List.all_eq_true.mp hall clause h

end Statement

end SenderPolicy
