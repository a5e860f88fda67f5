import SenderPolicy.Policy.Record
import SenderPolicy.Policy.Statement

/-!
# Literal addresses and networks

The value of an `ip4` or `ip6` clause is a network if there is a slash in it, and an address if
there is none.  Either has to be of the family that the clause names.
-/

namespace SenderPolicy

/-- What the value of an `ip4` or `ip6` clause turns out to be. -/
inductive Literal where
  | address (address : Address)
  | network (network : Network)
  | invalidAddress
  | invalidNetwork
  deriving DecidableEq

namespace Literal

/-- Read a value that has to be of the family. -/
def read (family : Family) (value : String) : Literal :=
  if '/' ∈ value.toList then
    match Network.parse value with
    | .ok n => if n.family = family then network n else invalidNetwork
    | .error _ => invalidNetwork
  else
    match Address.parse value with
    | .ok a => if a.family = family then address a else invalidAddress
    | .error _ => invalidAddress

/-- The tag of a clause that names the family and has this value. -/
def tag (family : Family) : Literal → EntryTag
  | address _ | network _ =>
    match family with
    | .v4 => .ip4
    | .v6 => .ip6
  | invalidAddress => .invalidAddress
  | invalidNetwork => .invalidNetwork

/-- The literal that a clause gives, if it gives one. -/
def ofClause? (clause : Clause) : Option Literal :=
  match clause.term with
  | .literal family value => some (read family value)
  | _ => none

/-- The address, if the literal is one. -/
def address? : Literal → Option Address
  | address a => some a
  | _ => none

/-- The network, if the literal is one. -/
def network? : Literal → Option Network
  | network n => some n
  | _ => none

end Literal

end SenderPolicy
