import SenderPolicy.Text.Numeral

/-!
# Internet addresses

An address is a number below `2 ^ width`, where the family fixes the width: 32 bits for IPv4 and
128 for IPv6.  The bound is part of the type, so masking and comparison are arithmetic on numbers
and nothing has to be checked again.  An IPv4-mapped IPv6 address stays an IPv6 address.

The same number is shown in four ways: `octets` in base 256, `groups` in base 65536 (IPv6 text),
`nibbles` in base 16 (reverse names), each of a length that the family fixes.
-/

namespace SenderPolicy

/-- The two address families. -/
inductive Family where
  | v4
  | v6
  deriving DecidableEq, Repr

namespace Family

/-- The number of bits of an address. -/
def width : Family → Nat
  | v4 => 32
  | v6 => 128

/-- The name of the family in messages. -/
def label : Family → String
  | v4 => "IPv4"
  | v6 => "IPv6"

/-- IPv4 comes first. -/
def rank : Family → Nat
  | v4 => 0
  | v6 => 1

end Family

/-- An address of either family, as a number of the family's width. -/
@[ext]
structure Address where
  family : Family
  bits : Nat
  bits_lt : bits < 2 ^ family.width
  deriving DecidableEq

namespace Address

/-- The address whose bits are the last `width` bits of `n`. -/
def ofNat (family : Family) (n : Nat) : Address :=
  ⟨family, n % 2 ^ family.width, Nat.mod_lt _ (Nat.two_pow_pos _)⟩

@[simp] theorem family_ofNat (f : Family) (n : Nat) : (ofNat f n).family = f := rfl

theorem bits_ofNat {f : Family} {n : Nat} (h : n < 2 ^ f.width) : (ofNat f n).bits = n :=
  Nat.mod_eq_of_lt h

@[simp] theorem ofNat_bits (a : Address) : ofNat a.family a.bits = a := by
  cases a with
  | mk f n h => simp only [ofNat, Nat.mod_eq_of_lt h]

/-- The all-zero address of a family. -/
def zero (family : Family) : Address := ofNat family 0

/-- The bytes of the address, most significant first. -/
def octets (a : Address) : List Nat := Numeral.digits 256 (a.family.width / 8) a.bits

/-- The sixteen-bit groups of the address, most significant first. -/
def groups (a : Address) : List Nat := Numeral.digits 65536 (a.family.width / 16) a.bits

/-- The half bytes of the address, most significant first. -/
def nibbles (a : Address) : List Nat := Numeral.digits 16 (a.family.width / 4) a.bits

@[simp] theorem length_octets (a : Address) : a.octets.length = a.family.width / 8 :=
  Numeral.length_digits ..

@[simp] theorem length_groups (a : Address) : a.groups.length = a.family.width / 16 :=
  Numeral.length_digits ..

@[simp] theorem length_nibbles (a : Address) : a.nibbles.length = a.family.width / 4 :=
  Numeral.length_digits ..

/-- The bytes determine the address within its family. -/
theorem value_octets (a : Address) : Numeral.value 256 a.octets = a.bits := by
  apply Numeral.value_digits
  have h := a.bits_lt
  cases hf : a.family <;> rw [hf] at h <;> exact h

theorem value_groups (a : Address) : Numeral.value 65536 a.groups = a.bits := by
  apply Numeral.value_digits
  have h := a.bits_lt
  cases hf : a.family <;> rw [hf] at h <;> exact h

theorem value_nibbles (a : Address) : Numeral.value 16 a.nibbles = a.bits := by
  apply Numeral.value_digits
  have h := a.bits_lt
  cases hf : a.family <;> rw [hf] at h <;> exact h

/-- Whether the address is an IPv4 address. -/
def isV4 (a : Address) : Bool := a.family == .v4

/-- Whether the address is an IPv6 address. -/
def isV6 (a : Address) : Bool := a.family == .v6

/-- Families in their order, then the numbers. -/
def le (a b : Address) : Bool :=
  a.family.rank < b.family.rank || (a.family == b.family && a.bits ≤ b.bits)

/-- The addresses in ascending order, each once. -/
def sorted (as : List Address) : List Address :=
  (as.mergeSort le).eraseReps

end Address

end SenderPolicy
