import SenderPolicy.Net.Address.Basic
import SenderPolicy.Text.Cut

/-!
# The mask of an `a` or `mx` mechanism

A mechanism that stands for the addresses of a host may widen each of them to a network.  There
are three spellings: `/n` for both families, `//n` for IPv6 only, and `/n//m` for each its own.
Lengths are bare digits, leading zeros allowed.  `/n` is checked against the larger width only, so
a mask may be too long for an IPv4 answer; that shows when the answer is known.
-/

namespace SenderPolicy

/-- The prefix lengths that a mechanism applies to the addresses it stands for. -/
inductive HostMask where
  /-- No mask is given: each address stands for itself. -/
  | absent
  /-- A prefix length for each family, where one applies. -/
  | lengths (v4 v6 : Option Nat)
  /-- Something is given, but it is no mask. -/
  | malformed
  deriving DecidableEq, Repr

namespace HostMask

/-- The prefix length that applies to an address of the family. -/
def lengthFor : HostMask → Family → Option Nat
  | lengths v4 _, .v4 => v4
  | lengths _ v6, .v6 => v6
  | _, _ => none

/-- One or more digits, of value at most `bound`. -/
def length? (bound : Nat) (cs : List Char) : Option Nat :=
  (Numeral.decimal? cs).filter (· ≤ bound)

/-- Lengths for the two families, if what is written for them is a length. -/
def ofLengths : (v4 v6 : Option Nat) → HostMask
  | some m, some n => lengths m n
  | _, _ => malformed

/-- The mask that a text beginning with a slash spells; no text is no mask. -/
def parse : List Char → HostMask
  | [] => absent
  | '/' :: '/' :: length =>
    match length? 128 length with
    | some n => lengths none n
    | none => malformed
  | '/' :: body =>
    match Text.cutAtDouble '/' body with
    | some (v4, v6) => ofLengths (length? 32 v4) (length? 128 v6)
    | none => ofLengths (length? 128 body) (length? 128 body)
  | _ => malformed

end HostMask

end SenderPolicy
