import SenderPolicy.Net.Address.Printer
import SenderPolicy.Net.Error

/-!
# Networks

A network is a base address and a prefix length.  `truncate` clears the bits past the prefix, and
everything else is said with it: `mask` builds networks, `contains` asks whether truncating the
address gives the base.

`mask` in its strict form refuses an address with bits set past the prefix; in its forced form it
clears them.  An answer from the DNS rarely sits on a network boundary, so the mechanisms that
apply a prefix to such an answer force it, and then a prefix that fits the family cannot fail
(`mask_forced`).

A `Network` is plain data: what is read back from storage need not be *canonical*, that is, have a
prefix no longer than its family allows and no bit set past it.  Whatever `mask` and `host` build
is canonical.
-/

namespace SenderPolicy

namespace Address

/-- The number of bits past a prefix. -/
def hostBits (a : Address) (prefixLength : Nat) : Nat := a.family.width - prefixLength

/-- The address with every bit past the prefix cleared. -/
def truncate (a : Address) (prefixLength : Nat) : Address where
  family := a.family
  bits := a.bits / 2 ^ a.hostBits prefixLength * 2 ^ a.hostBits prefixLength
  bits_lt := Nat.lt_of_le_of_lt (Nat.div_mul_le_self ..) a.bits_lt

@[simp] theorem family_truncate (a : Address) (p : Nat) : (a.truncate p).family = a.family := rfl

theorem bits_truncate (a : Address) (p : Nat) :
    (a.truncate p).bits = a.bits / 2 ^ (a.family.width - p) * 2 ^ (a.family.width - p) := rfl

/-- An address is left alone exactly when the bits past the prefix are clear. -/
theorem truncate_eq_self_iff {a : Address} {p : Nat} :
    a.truncate p = a ↔ 2 ^ (a.family.width - p) ∣ a.bits := by
  rw [Address.ext_iff]
  simp only [family_truncate, bits_truncate, true_and]
  constructor
  · intro h
    exact ⟨a.bits / 2 ^ (a.family.width - p), by rw [Nat.mul_comm]; exact h.symm⟩
  · exact Nat.div_mul_cancel

theorem truncate_truncate (a : Address) (p : Nat) : (a.truncate p).truncate p = a.truncate p := by
  rw [truncate_eq_self_iff]
  exact ⟨_, Nat.mul_comm ..⟩

end Address

/-- A base address and a prefix length. -/
structure Network where
  base : Address
  prefixLength : Nat
  deriving DecidableEq

namespace Network

/-- The prefix fits the family, and no bit is set past it. -/
def Canonical (n : Network) : Prop :=
  n.prefixLength ≤ n.base.family.width ∧ n.base.truncate n.prefixLength = n.base

instance (n : Network) : Decidable n.Canonical :=
  inferInstanceAs (Decidable (_ ∧ _))

/-- The text of a network: base, slash, prefix length. -/
def text (n : Network) : String := n.base.text ++ "/" ++ n.prefixLength.repr

/-- The network of an address and a prefix length.  Bits past the prefix are cleared if `force`
is set, and refused otherwise. -/
def mask (a : Address) (prefixLength : Nat) (force : Bool) : Except NetError Network :=
  if a.family.width < prefixLength then .error (.invalidPrefix prefixLength a.family)
  else if a.truncate prefixLength ≠ a ∧ force = false then
    .error (.invalidNetwork (text ⟨a, prefixLength⟩))
  else .ok ⟨a.truncate prefixLength, prefixLength⟩

/-- The network that consists of one address. -/
def host (a : Address) : Network := ⟨a, a.family.width⟩

/-- The family of the base address. -/
def family (n : Network) : Family := n.base.family

/-- Whether the address lies in the network: it has the network's family and agrees with the base
on the prefix. -/
def contains (n : Network) (a : Address) : Bool :=
  n.family == a.family && a.truncate n.prefixLength == n.base

/-- Ordered by base address, then by prefix length. -/
def le (m n : Network) : Bool :=
  if m.base = n.base then m.prefixLength ≤ n.prefixLength else m.base.le n.base

/-- The networks in ascending order, each once. -/
def sorted (ns : List Network) : List Network :=
  (ns.mergeSort le).eraseReps

theorem mask_forced {a : Address} {p : Nat} (h : p ≤ a.family.width) :
    mask a p true = .ok ⟨a.truncate p, p⟩ := by
  rw [mask, if_neg (Nat.not_lt.mpr h)]
  simp

theorem mask_of_width_lt {a : Address} {p : Nat} (force : Bool) (h : a.family.width < p) :
    mask a p force = .error (.invalidPrefix p a.family) := by
  rw [mask, if_pos h]

/-- A mask that succeeds has cleared the bits past the prefix and nothing else. -/
theorem eq_of_mask_eq_ok {a : Address} {p : Nat} {force : Bool} {n : Network}
    (h : mask a p force = .ok n) : p ≤ a.family.width ∧ n = ⟨a.truncate p, p⟩ := by
  rw [mask] at h
  split at h
  · cases h
  · next hp =>
    split at h
    · cases h
    · cases h
      exact ⟨Nat.not_lt.mp hp, rfl⟩

/-- Whatever `mask` builds is canonical. -/
theorem canonical_of_mask_eq_ok {a : Address} {p : Nat} {force : Bool} {n : Network}
    (h : mask a p force = .ok n) : n.Canonical := by
  obtain ⟨hp, rfl⟩ := eq_of_mask_eq_ok h
  exact ⟨hp, a.truncate_truncate p⟩

theorem canonical_host (a : Address) : (host a).Canonical := by
  refine ⟨Nat.le_refl _, ?_⟩
  rw [Address.truncate_eq_self_iff]
  simp [host]

end Network

end SenderPolicy
