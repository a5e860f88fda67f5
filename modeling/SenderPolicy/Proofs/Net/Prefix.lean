import SenderPolicy.Net.Network

/-!
# Prefixes bit by bit

A network is stored as a truncated number, and membership in it is a comparison of truncated
numbers.  What is meant is that the first bits of two addresses are the same, and here the two are
shown to agree.

* `Address.truncate_eq_truncate_iff`: truncating is forgetting the bits past the prefix.
* `Network.contains_iff_agreeOn`: a canonical network holds the addresses that agree with its base
  on the prefix.
* `Network.contains_iff_of_mask_eq_ok`: so does the network that a mask makes of any address, though
  its base is another address.
-/

namespace SenderPolicy

namespace Address

/-- The bit of an address at a position, counted from the most significant one. -/
def bit (a : Address) (i : Nat) : Bool := a.bits.testBit (a.family.width - 1 - i)

/-- The addresses are of one family, and their first `p` bits are the same. -/
def AgreeOn (p : Nat) (a b : Address) : Prop :=
  a.family = b.family ∧ ∀ i < p, a.bit i = b.bit i

instance (p : Nat) (a b : Address) : Decidable (AgreeOn p a b) :=
  inferInstanceAs (Decidable (_ ∧ _))

/-- There are no bits past the width. -/
theorem testBit_eq_false {a : Address} {j : Nat} (hj : a.family.width ≤ j) :
    a.bits.testBit j = false :=
  Nat.testBit_lt_two_pow (Nat.lt_of_lt_of_le a.bits_lt (Nat.pow_le_pow_right Nat.two_pos hj))

/-- Truncating clears the bits past the prefix. -/
theorem testBit_truncate (a : Address) (p j : Nat) : (a.truncate p).bits.testBit j =
    (decide (a.family.width - p ≤ j) && a.bits.testBit j) := by
  rw [bits_truncate, Nat.testBit_mul_two_pow, Nat.testBit_div_two_pow]
  by_cases hj : a.family.width - p ≤ j
  · rw [Nat.sub_add_cancel hj]
  · simp [hj]

/-- No bit is set past a prefix exactly if truncating changes nothing. -/
theorem truncate_eq_self_iff_bit {a : Address} {p : Nat} :
    a.truncate p = a ↔ ∀ i, p ≤ i → i < a.family.width → a.bit i = false := by
  constructor
  · intro h i hp hi
    rw [← h, bit, testBit_truncate, family_truncate]
    have hbehind : ¬a.family.width - p ≤ a.family.width - 1 - i := by omega
    simp [hbehind]
  · intro h
    refine Address.ext rfl (Nat.eq_of_testBit_eq fun j => ?_)
    rw [testBit_truncate]
    by_cases hj : a.family.width - p ≤ j
    · simp [hj]
    · have hbit := h (a.family.width - 1 - j) (by omega) (by omega)
      rw [bit, show a.family.width - 1 - (a.family.width - 1 - j) = j by omega] at hbit
      simp [hbit]

/-- Two numbers have the same quotient by a power of two if they have the same bits from there
on. -/
theorem div_two_pow_eq_iff {m n k : Nat} :
    m / 2 ^ k = n / 2 ^ k ↔ ∀ j, k ≤ j → m.testBit j = n.testBit j := by
  constructor
  · intro h j hj
    have hquotient := congrArg (Nat.testBit · (j - k)) h
    simpa only [Nat.testBit_div_two_pow, Nat.sub_add_cancel hj] using hquotient
  · intro h
    refine Nat.eq_of_testBit_eq fun i => ?_
    rw [Nat.testBit_div_two_pow, Nat.testBit_div_two_pow]
    exact h (i + k) (Nat.le_add_left k i)

/-- Positions counted from either end. -/
theorem forall_bit_eq_iff {a b : Address} {p : Nat} (hfamily : a.family = b.family)
    (hp : p ≤ a.family.width) :
    (∀ i < p, a.bit i = b.bit i) ↔
      ∀ j, a.family.width - p ≤ j → a.bits.testBit j = b.bits.testBit j := by
  constructor
  · intro h j hj
    by_cases hwidth : j < a.family.width
    · have hbit := h (a.family.width - 1 - j) (by omega)
      rw [bit, bit, ← hfamily, show a.family.width - 1 - (a.family.width - 1 - j) = j by omega]
        at hbit
      exact hbit
    · have hj' : a.family.width ≤ j := Nat.le_of_not_lt hwidth
      rw [testBit_eq_false hj', testBit_eq_false (hfamily ▸ hj')]
  · intro h i hi
    rw [bit, bit, ← hfamily]
    exact h _ (by omega)

/-- Truncating forgets the bits past the prefix, and nothing else. -/
theorem truncate_eq_truncate_iff {a b : Address} {p : Nat} (hp : p ≤ a.family.width) :
    a.truncate p = b.truncate p ↔ AgreeOn p a b := by
  rw [Address.ext_iff, AgreeOn, family_truncate, family_truncate]
  refine and_congr_right fun hfamily => ?_
  rw [forall_bit_eq_iff hfamily hp, ← div_two_pow_eq_iff, bits_truncate, bits_truncate, ← hfamily]
  exact Nat.mul_right_cancel_iff (Nat.two_pow_pos _)

example : AgreeOn 23 (ofNat .v4 0xC0000200) (ofNat .v4 0xC00003FF) := by decide

end Address

namespace Network

/-- An address lies in a canonical network if it agrees with the base on the prefix. -/
theorem contains_iff_agreeOn {n : Network} {a : Address} (hn : n.Canonical) :
    n.contains a = true ↔ Address.AgreeOn n.prefixLength n.base a := by
  obtain ⟨hlength, hbase⟩ := hn
  rw [← Address.truncate_eq_truncate_iff hlength, hbase, contains, Bool.and_eq_true, beq_iff_eq,
    beq_iff_eq]
  constructor
  · exact fun h => h.2.symm
  · intro h
    have hfamily := congrArg Address.family h
    exact ⟨hfamily, h.symm⟩

/-- An address lies in the network that a mask makes of another one if the two agree on the
prefix. -/
theorem contains_iff_of_mask_eq_ok {a ip : Address} {p : Nat} {force : Bool} {n : Network}
    (h : mask a p force = .ok n) : n.contains ip = true ↔ Address.AgreeOn p a ip := by
  have hn := canonical_of_mask_eq_ok h
  obtain ⟨hp, rfl⟩ := eq_of_mask_eq_ok h
  rw [contains_iff_agreeOn hn, ← Address.truncate_eq_truncate_iff hp,
    ← Address.truncate_eq_truncate_iff (a := a.truncate p) hp, Address.truncate_truncate]

end Network

end SenderPolicy
