import SenderPolicy.Idna.Domain
import SenderPolicy.Policy.Error
import SenderPolicy.Policy.Expansion

/-!
# Resolving the policy of a domain

`parseRecord` resolves a policy text that is at hand; `resolve` looks the text up first, takes the
first one if there are several, and finds nothing to resolve if there is none.

Either way the domain is brought into the one spelling that is looked up, before anything is
asked: blanks and final dots go, and what is left is put into ASCII.
-/

namespace SenderPolicy

/-- The spelling of a domain that is looked up. -/
def normalizeDomain (domain : String) : Except PolicyError String :=
  match Text.dropRootDots (Text.trimBlanks domain.toList) with
  | [] => .error .emptyDomain
  | cs =>
    match Idna.toAscii? cs with
    | some ascii => .ok (String.ofList ascii)
    | none => .error .notADomain

variable (resolver : Resolver) (options : ResolveOptions)

/-- The records that a text published by a domain (in its looked-up spelling) leads to. -/
def resolveText (ascii raw : String) : Traced PolicyError (List PolicyRecord) :=
  match Statement.parse raw with
  | .error reason => .fail (.malformed raw reason)
  | .ok statement => (Expansion.root resolver options ascii raw statement).mapError .lookup

/-- The records that a policy text leads to, taken as the policy of a domain. -/
def parseRecord (domain raw : String) : Traced PolicyError (List PolicyRecord) := do
  let ascii ← Traced.ofExcept (normalizeDomain domain)
  resolveText resolver options ascii raw

/-- The records that the policy of a domain leads to. -/
def resolve (domain : String) : Traced PolicyError (List PolicyRecord) := do
  let ascii ← Traced.ofExcept (normalizeDomain domain)
  match ← (resolver.policyTexts ascii).mapError .lookup with
  | [] => return []
  | raw :: _ => resolveText resolver options ascii raw

end SenderPolicy
