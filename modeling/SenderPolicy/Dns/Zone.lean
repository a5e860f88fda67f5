import SenderPolicy.Dns.Resolver

/-!
# Zones held in memory

A zone is a list of entries, each for one name and one record type.  A question is answered by the
first entry whose name and type are those of the question, compared exactly; a question that no
entry answers has the empty answer.
-/

namespace SenderPolicy

/-- What a zone says about one name and one record type. -/
structure Zone.Entry where
  name : String
  type : RecordType
  answer : Except LookupError (List Answer)

/-- A list of entries. -/
abbrev Zone := List Zone.Entry

/-- The resolver that answers from a zone. -/
def Zone.resolver (zone : Zone) : Resolver := fun name type =>
  match zone.find? fun entry => entry.name == name && entry.type == type with
  | some entry => entry.answer
  | none => .ok []

end SenderPolicy
