import SenderPolicy.Net.Address.Parser
import SenderPolicy.Text.Blank

/-!
# How a resolver is set up

The name servers to ask, how long to wait and how often to try.  Servers are kept trimmed, in the
order in which they were first named, each once; an empty one is no server.  There is always at
least one attempt.
-/

namespace SenderPolicy

/-- Name servers, waiting time in milliseconds, and number of attempts. -/
structure ResolverSettings where
  nameservers : List String := []
  timeoutMs : Nat := 5000
  attempts : Nat := 2
  deriving DecidableEq, Repr

namespace ResolverSettings

/-- Add a server, unless it is empty or already there. -/
def addNameserver (settings : ResolverSettings) (server : String) : ResolverSettings :=
  let server := Text.trim server
  if server = "" ∨ server ∈ settings.nameservers then settings
  else { settings with nameservers := settings.nameservers ++ [server] }

/-- Add servers in turn. -/
def addNameservers (settings : ResolverSettings) (servers : List String) : ResolverSettings :=
  servers.foldl addNameserver settings

/-- Set the waiting time. -/
def setTimeoutMs (settings : ResolverSettings) (timeoutMs : Nat) : ResolverSettings :=
  { settings with timeoutMs }

/-- Set the number of attempts, but to no less than one. -/
def setAttempts (settings : ResolverSettings) (attempts : Nat) : ResolverSettings :=
  { settings with attempts := max attempts 1 }

/-- The servers that are given by their address. -/
def nameserverAddresses (settings : ResolverSettings) : List Address :=
  settings.nameservers.filterMap fun server => Address.read? server.toList

end ResolverSettings

end SenderPolicy
