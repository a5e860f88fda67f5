import SenderPolicy.Net.Address.Basic

/-!
# What can be wrong with an address or a network

Three causes.  A text that is no address and a text that is no network are kept as they were
given; a prefix length that the family has no room for is kept with the family.
-/

namespace SenderPolicy

/-- Why an address or a network was refused. -/
inductive NetError where
  /-- The text is not an address. -/
  | invalidAddress (text : String)
  /-- The text is not a network, or the network has bits set past its prefix. -/
  | invalidNetwork (text : String)
  /-- The prefix is longer than an address of the family. -/
  | invalidPrefix (length : Nat) (family : Family)
  deriving DecidableEq, Repr

/-- The message shown to the user. -/
def NetError.message : NetError → String
  | .invalidAddress text => "invalid IP address: " ++ text
  | .invalidNetwork text => "invalid network: " ++ text
  | .invalidPrefix length family =>
    "prefix length " ++ length.repr ++ " exceeds the " ++ family.label ++ " address width"

end SenderPolicy
