/-!
# Verdicts

What a policy says about a sender that nothing before its final `all` has matched.
-/

namespace SenderPolicy

/-- What to do with a sender. -/
inductive Action where
  | pass
  | fail
  | softFail
  | neutral
  deriving DecidableEq, Repr

/-- The word for an action in reports. -/
def Action.word : Action → String
  | .pass => "pass"
  | .fail => "fail"
  | .softFail => "softfail"
  | .neutral => "neutral"

end SenderPolicy
