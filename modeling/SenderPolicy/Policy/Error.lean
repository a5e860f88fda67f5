import SenderPolicy.Dns.LookupError
import SenderPolicy.Policy.Statement

/-!
# Why a resolution fails

The domain may be empty or no domain at all, its own policy text may not be a policy, and a
lookup may fail where failure is not tolerated.
-/

namespace SenderPolicy

/-- Why there is no answer. -/
inductive PolicyError where
  /-- No domain was given. -/
  | emptyDomain
  /-- What was given is no domain. -/
  | notADomain
  /-- The domain's own text is not a policy. -/
  | malformed (raw : String) (reason : MalformedReason)
  /-- A lookup failed. -/
  | lookup (failure : LookupError)
  deriving DecidableEq, Repr

/-- The message shown to the user. -/
def PolicyError.message : PolicyError → String
  | .emptyDomain => "domain is empty"
  | .notADomain => "domain IDNA conversion failed"
  | .malformed raw reason => "malformed SPF record (" ++ reason.message ++ "): " ++ raw
  | .lookup failure => failure.message

end SenderPolicy
