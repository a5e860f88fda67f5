import SenderPolicy.Dns.LookupError
import SenderPolicy.Dns.Traced
import SenderPolicy.Text.AsciiCase
import SenderPolicy.Text.Blank

/-!
# Asking the DNS

A resolver is a function from a name and a record type to an answer or a failure; nothing here
depends on how it comes by the answer.  On top of the single question `ask` stand the questions
that a policy needs: the addresses of a host, its mail exchanges, its texts, and those of its texts
that look like a policy.

The addresses of a host are two questions, IPv4 first.  If the second fails, the whole lookup
fails, and what the first one brought is lost with it.
-/

namespace SenderPolicy

/-- A source of answers. -/
abbrev Resolver := String → RecordType → Except LookupError (List Answer)

namespace Resolver

variable (resolver : Resolver)

/-- Put one question. -/
def ask (name : String) (type : RecordType) : Traced LookupError (List Answer) :=
  ⟨resolver name type, [⟨name, type⟩]⟩

/-- The addresses of a host, IPv4 before IPv6. -/
def addresses (name : String) : Traced LookupError (List Address) := do
  let v4 ← resolver.ask name .a
  let v6 ← resolver.ask name .aaaa
  return v4.filterMap Answer.address? ++ v6.filterMap Answer.address?

/-- The mail exchanges of a domain. -/
def mailHosts (name : String) : Traced LookupError (List String) := do
  return (← resolver.ask name .mx).filterMap Answer.name?

/-- The names that a name is an alias of. -/
def aliases (name : String) : Traced LookupError (List String) := do
  return (← resolver.ask name .cname).filterMap Answer.name?

/-- The texts published under a name. -/
def texts (name : String) : Traced LookupError (List String) := do
  return (← resolver.ask name .txt).filterMap Answer.text?

/-- Whether a text announces itself as a policy: it starts with `v=spf1`, in any case. -/
def isPolicyText (text : String) : Bool :=
  (Text.afterKeyword? "v=spf1".toList text.toList).isSome

/-- Of the texts published under a name, trimmed, those that announce themselves as a policy. -/
def policyTexts (name : String) : Traced LookupError (List String) := do
  return ((← resolver.texts name).map Text.trim).filter isPolicyText

/-- The resolver that has nobody to ask. -/
def offline (reason : String) : Resolver := fun name type =>
  .error (.unanswered name type reason)

@[simp] theorem outcome_ask (name : String) (type : RecordType) :
    (resolver.ask name type).outcome = resolver name type := rfl

@[simp] theorem queries_ask (name : String) (type : RecordType) :
    (resolver.ask name type).queries = [⟨name, type⟩] := rfl

/-- The policies under a name are read off one answer. -/
theorem outcome_policyTexts (name : String) :
    (resolver.policyTexts name).outcome = (resolver name .txt).map fun answers =>
      ((answers.filterMap Answer.text?).map Text.trim).filter isPolicyText := by
  cases h : resolver name .txt <;> simp [policyTexts, texts, bind, Traced.bind, h, Except.map]

/-- The addresses of a host take two questions, or one if that one fails. -/
theorem queries_addresses (name : String) :
    (resolver.addresses name).queries =
      match resolver name .a with
      | .ok _ => [⟨name, .a⟩, ⟨name, .aaaa⟩]
      | .error _ => [⟨name, .a⟩] := by
  cases h : resolver name .a with
  | error e => simp [addresses, bind, Traced.bind, h]
  | ok v4 => cases h' : resolver name .aaaa <;> simp [addresses, bind, Traced.bind, h, h']

end Resolver

end SenderPolicy
