import SenderPolicy.Net.Address.Parser
import SenderPolicy.Net.Network
import SenderPolicy.Text.Blank

/-!
# Addresses and networks as they are written

Blanks around an address are forgiven, and in a network also blanks around its address part.
A prefix length may carry a `+` and leading zeros, but no blanks.  A network literal is strict
about its bits, so `192.0.2.1/24` is refused.

Every refusal names the text as it was given, blanks included.
-/

namespace SenderPolicy

/-- The largest prefix length that can be written down. -/
def Network.maxPrefixLength : Nat := 255

/-- The address that a text denotes, blanks around it forgiven. -/
def Address.parse (text : String) : Except NetError Address :=
  match Address.read? (Text.trimBlanks text.toList) with
  | some a => .ok a
  | none => .error (.invalidAddress text)

/-- The address and the prefix length that a network literal names. -/
def Network.parts? (cs : List Char) : Option (Address × Nat) :=
  match cs.splitOn '/' with
  | [address, length] => do
    let a ← Address.read? (Text.trimBlanks address)
    let p ← Numeral.count? Network.maxPrefixLength length
    return (a, p)
  | _ => none

/-- The network that a text denotes. -/
def Network.parse (text : String) : Except NetError Network :=
  match Network.parts? (Text.trimBlanks text.toList) with
  | none => .error (.invalidNetwork text)
  | some (a, p) =>
    match Network.mask a p false with
    | .ok n => .ok n
    | .error _ => .error (.invalidNetwork text)

/-- A network that is written down is canonical. -/
theorem Network.canonical_of_parse_eq_ok {text : String} {n : Network}
    (h : Network.parse text = .ok n) : n.Canonical := by
  rw [Network.parse] at h
  split at h
  · cases h
  · split at h
    · next hmask =>
      cases h
      exact Network.canonical_of_mask_eq_ok hmask
    · cases h

end SenderPolicy
