import SenderPolicy.Dns.Encoding
import SenderPolicy.Dns.Record

/-!
# Why a lookup fails

A resolver that cannot be set up, a question that gets no answer, and a text record that is not
text.  The first and the second carry the words of whatever failed below.
-/

namespace SenderPolicy

/-- Why a lookup failed. -/
inductive LookupError where
  /-- There is no resolver to ask. -/
  | noResolver (reason : String)
  /-- The question got no answer. -/
  | unanswered (name : String) (type : RecordType) (reason : String)
  /-- A text record is not UTF-8. -/
  | notText (name : String) (fault : Utf8Fault)
  deriving DecidableEq, Repr

/-- The message shown to the user. -/
def LookupError.message : LookupError → String
  | .noResolver reason => "resolver initialization failed: " ++ reason
  | .unanswered name type reason =>
    type.mnemonic ++ " lookup failed for " ++ name ++ ": " ++ reason
  | .notText name fault =>
    "TXT record " ++ name ++ " contains invalid UTF-8 data: " ++ fault.message

end SenderPolicy
