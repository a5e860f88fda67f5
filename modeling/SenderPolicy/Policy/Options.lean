/-!
# How a policy is resolved
-/

namespace SenderPolicy

/-- What a failed lookup does to the resolution. -/
inductive FailurePolicy where
  /-- It costs its own answer, and is noted. -/
  | tolerate
  /-- It ends the resolution. -/
  | abort
  deriving DecidableEq, Repr

/-- The word for a failure policy. -/
def FailurePolicy.word : FailurePolicy → String
  | .tolerate => "tolerate"
  | .abort => "abort"

/-- How deep to follow other policies, what to do about failed lookups, and whether to fetch
explanations. -/
structure ResolveOptions where
  maxDepth : Nat := 10
  onFailure : FailurePolicy := .tolerate
  fetchExplanation : Bool := false
  deriving DecidableEq, Repr

end SenderPolicy
