import SenderPolicy.Policy.Action
import SenderPolicy.Policy.HostMask
import SenderPolicy.Text.AsciiCase

/-!
# The terms of a policy

A policy text is a row of tokens, and each token is classified on its own.  Keywords are
recognised in any case; what follows a keyword is kept exactly as it is written, neither trimmed nor
checked.  A token that is nothing in particular is `unknown`, which is never an error.

A `+` in front is understood before `all`, `a` and `mx` only.  The other three qualifiers are
understood before `all` only.
-/

namespace SenderPolicy

/-- The mechanisms that stand for the addresses of hosts. -/
inductive HostKind where
  /-- The addresses of the target itself. -/
  | a
  /-- The addresses of the target's mail exchanges. -/
  | mx
  deriving DecidableEq, Repr

/-- What one token of a policy says. -/
inductive Term where
  /-- `v=`: the version of the policy language. -/
  | version (value : String)
  /-- `ip4:` or `ip6:`: an address or a network, given literally. -/
  | literal (family : Family) (value : String)
  /-- `include:`: whoever the target's policy authorises. -/
  | inclusion (target : String)
  /-- `redirect=`: the target's policy. -/
  | redirection (target : String)
  /-- `a` or `mx`: the addresses of hosts.  `value` is everything after the name. -/
  | host (kind : HostKind) (target : Option String) (mask : HostMask) (value : String)
  /-- `exists:`: noted, not evaluated. -/
  | existsTest (value : String)
  /-- `ptr`: noted, not evaluated. -/
  | pointer (value : String)
  /-- `all`: everybody else. -/
  | all (action : Action)
  /-- `exp=`: where the explanation for a refusal is published. -/
  | explanation (target : String)
  /-- Anything else. -/
  | unknown
  deriving DecidableEq, Repr

namespace Term

/-- The keywords that are followed by a value, and what they make of it. -/
def keywords : List (String × (String → Term)) :=
  [("v=", version), ("ip4:", literal .v4), ("ip6:", literal .v6), ("include:", inclusion),
    ("redirect=", redirection), ("exp=", explanation), ("exists:", existsTest),
    ("ptr:", pointer)]

/-- The tokens that are a term as a whole. -/
def fixed : List (String × Term) :=
  [("ptr", pointer ""), ("all", all .pass), ("+all", all .pass), ("-all", all .fail),
    ("~all", all .softFail), ("?all", all .neutral)]

/-- A keyword and its value. -/
def keyword? (cs : List Char) : Option Term :=
  keywords.findSome? fun (keyword, term) =>
    (Text.afterKeyword? keyword.toList cs).map fun value => term (String.ofList value)

/-- A token that is a term as a whole. -/
def fixed? (cs : List Char) : Option Term :=
  fixed.findSome? fun (spelling, term) =>
    if cs.map Char.toLower = spelling.toList then some term else none

/-- The term that an `a` or `mx` makes with what follows its name. -/
def ofHostValue (kind : HostKind) (value : List Char) : Term :=
  let (target, mask) := Text.cutBefore '/' value
  host kind (if target = [] then none else some (String.ofList target)) (HostMask.parse mask)
    (String.ofList value)

/-- What follows the name of an `a` or `mx`: nothing, a mask, or a colon and a value. -/
def hostValue? : List Char → Option (List Char)
  | [] => some []
  | ':' :: value => some value
  | '/' :: mask => some ('/' :: mask)
  | _ => none

/-- An `a` or `mx` without a qualifier. -/
def unqualifiedHost? (cs : List Char) : Option Term :=
  ((Text.afterKeyword? ['a'] cs).bind hostValue?).map (ofHostValue .a) <|>
    ((Text.afterKeyword? ['m', 'x'] cs).bind hostValue?).map (ofHostValue .mx)

/-- An `a` or `mx`, perhaps after a `+`. -/
def host? : List Char → Option Term
  | '+' :: cs => unqualifiedHost? cs
  | cs => unqualifiedHost? cs

/-- What a token says. -/
def ofChars (cs : List Char) : Term :=
  (keyword? cs <|> fixed? cs <|> host? cs).getD unknown

/-- What a token says. -/
def parse (token : String) : Term := ofChars token.toList

/-- The value of a `v=`. -/
def version? : Term → Option String
  | version value => some value
  | _ => none

/-- The action of an `all`. -/
def action? : Term → Option Action
  | all action => some action
  | _ => none

/-- Whether the term ends the part of a policy that is acted on. -/
def isAll (term : Term) : Bool := term.action?.isSome

end Term

end SenderPolicy
