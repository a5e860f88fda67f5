import SenderPolicy.Proofs.Net.Made
import SenderPolicy.Proofs.Net.Masking

/-!
# Networks are intervals

The addresses that round down to the base of a network are those from the base up to the next
multiple.  So a network is an interval of numbers, and since the ends of the longer intervals are
ends of the shorter ones as well, of two networks one lies within the other or they have no address
in common.

* `Network.contains_iff_bits`: the interval.
* `Network.contains_eq_of_contains`: an address of the network with the longer prefix stands for all
  of them, as far as the other network is concerned.
* `Network.interval_and_laminar`: both, for all networks that are made from addresses, together with
  the same membership by a mask and in machine words.

All of it hangs on the base being a multiple, which is what `Network.Canonical` says.
-/

namespace SenderPolicy

namespace Network

/-! ## One network -/

/-- The number of addresses in a network. -/
def size (n : Network) : Nat := 2 ^ (n.family.width - n.prefixLength)

/-- An address lies in a network if it is rounded down to the base. -/
theorem contains_iff_truncate_eq {n : Network} {x : Address} :
    n.contains x = true ↔ x.truncate n.prefixLength = n.base := by
  rw [contains, Bool.and_eq_true, beq_iff_eq, beq_iff_eq, and_iff_right_iff_imp]
  intro h
  show n.base.family = x.family
  rw [← h, Address.family_truncate]

theorem family_eq_of_contains {n : Network} {x : Address} (h : n.contains x = true) :
    x.family = n.family := by
  have hfamily := congrArg Address.family (contains_iff_truncate_eq.mp h)
  exact hfamily

theorem size_pos (n : Network) : 0 < n.size := Nat.two_pow_pos _

section

variable {n : Network} (hn : n.Canonical)

include hn

theorem Canonical.size_dvd : n.size ∣ n.base.bits := Address.truncate_eq_self_iff.mp hn.2

/-- A network has its own base. -/
theorem Canonical.contains_base : n.contains n.base = true := contains_iff_truncate_eq.mpr hn.2

/-- The interval ends where the addresses of the family do, or before. -/
theorem Canonical.base_add_size_le : n.base.bits + n.size ≤ 2 ^ n.family.width := by
  have hwidth : n.size ∣ 2 ^ n.family.width := Nat.pow_dvd_pow 2 (Nat.sub_le ..)
  have hlt : n.base.bits < 2 ^ n.family.width := n.base.bits_lt
  refine Nat.le_of_lt_add_of_dvd ?_ (Nat.dvd_add hn.size_dvd (Nat.dvd_refl _)) hwidth
  omega

/-- The addresses of a network are those from its base up to the next multiple. -/
theorem contains_iff_bits (x : Address) : n.contains x = true ↔
    x.family = n.family ∧ n.base.bits ≤ x.bits ∧ x.bits ≤ n.base.bits + n.size - 1 := by
  rw [contains_iff_truncate_eq, Address.ext_iff]
  refine and_congr_right fun (hfamily : x.family = n.base.family) => ?_
  obtain ⟨c, hc⟩ := hn.size_dvd
  have hsize : 2 ^ (x.family.width - n.prefixLength) = n.size := by
    rw [hfamily]
    rfl
  rw [Nat.mul_comm] at hc
  rw [Address.bits_truncate, hsize, hc, Nat.mul_right_cancel_iff n.size_pos,
    Nat.div_eq_iff n.size_pos]

/-- They are those of which a forced mask makes the network. -/
theorem contains_iff_mask_eq_ok (x : Address) :
    n.contains x = true ↔ mask x n.prefixLength true = .ok n := by
  rw [contains_iff_truncate_eq]
  constructor
  · intro h
    have hfits : n.prefixLength ≤ x.family.width := by
      rw [← Address.family_truncate x n.prefixLength, h]
      exact hn.1
    rw [mask_forced hfits, h]
  · intro h
    obtain ⟨-, heq⟩ := eq_of_mask_eq_ok h
    exact (congrArg base heq).symm

end

/-! ## Two networks -/

/-- Every address of the first network lies in the second one. -/
def Within (m n : Network) : Prop := ∀ x, m.contains x = true → n.contains x = true

/-- The networks have no address in common. -/
def Apart (m n : Network) : Prop := ∀ x, ¬(m.contains x = true ∧ n.contains x = true)

section

variable {m n : Network} (hm : m.Canonical) (hle : n.prefixLength ≤ m.prefixLength)

include hle

/-- An address of a network answers for the base, wherever the prefix is not longer. -/
theorem contains_eq_of_contains {x : Address} (hx : m.contains x = true) :
    n.contains x = n.contains m.base := by
  rw [Bool.eq_iff_iff, contains_iff_truncate_eq, contains_iff_truncate_eq,
    ← contains_iff_truncate_eq.mp hx, Address.truncate_truncate_eq_min, Nat.min_eq_right hle]

include hm

theorem within_iff_contains_base : m.Within n ↔ n.contains m.base = true := by
  constructor
  · exact fun h => h m.base hm.contains_base
  · exact fun h x hx => (contains_eq_of_contains hle hx).trans h

theorem apart_iff_contains_base : m.Apart n ↔ n.contains m.base = false := by
  rw [← Bool.not_eq_true]
  constructor
  · exact fun h hbase => h m.base ⟨hm.contains_base, hbase⟩
  · rintro h x ⟨hx, hxn⟩
    rw [contains_eq_of_contains hle hx] at hxn
    exact h hxn

end

/-! ## Networks that are made from addresses -/

/-- What the addresses of a network are. -/
structure Interval (n : Network) : Prop where
  /-- They are numbers between two bounds, in the family of the network. -/
  contains_iff_bits : ∀ x, n.contains x = true ↔ x.family = n.family ∧ n.base.bits ≤ x.bits ∧
    x.bits ≤ n.base.bits + 2 ^ (n.family.width - n.prefixLength) - 1
  /-- The upper bound is an address of the family. -/
  last_lt : n.base.bits + 2 ^ (n.family.width - n.prefixLength) - 1 < 2 ^ n.family.width
  /-- They are the addresses of which a forced mask makes the network. -/
  contains_iff_mask : ∀ x, n.contains x = true ↔ mask x n.prefixLength true = .ok n
  /-- An address of the other family is none of them, whatever its bits. -/
  contains_eq_false : ∀ x, x.family ≠ n.family → n.contains x = false
  /-- In machine words the question has no fault, and the same answer. -/
  in_words : ∀ x, Word.contains n x = .ok (n.contains x)

/-- How two networks lie, of which the first one has the longer prefix. -/
structure Laminar (m n : Network) : Prop where
  /-- The base tells whether one lies within the other. -/
  within_iff : m.Within n ↔ n.contains m.base = true
  /-- If it does not, they have no address in common. -/
  apart_iff : m.Apart n ↔ ¬m.Within n

theorem Canonical.interval {n : Network} (hn : n.Canonical) : n.Interval where
  contains_iff_bits := Network.contains_iff_bits hn
  last_lt := by
    have hle := hn.base_add_size_le
    have hpos := n.size_pos
    unfold size at hle hpos
    omega
  contains_iff_mask := contains_iff_mask_eq_ok hn
  contains_eq_false x hx := by
    rw [← Bool.not_eq_true]
    exact fun h => hx (family_eq_of_contains h)
  in_words := Word.contains_eq hn.1

theorem Canonical.laminar {m n : Network} (hm : m.Canonical)
    (hle : n.prefixLength ≤ m.prefixLength) : Laminar m n where
  within_iff := within_iff_contains_base hm hle
  apart_iff := by
    rw [apart_iff_contains_base hm hle, within_iff_contains_base hm hle, Bool.not_eq_true]

/-- A network is an interval, and with any other one it is nested or apart. -/
theorem interval_and_laminar {a b : Address} {m n : Network} (hm : MadeFrom a m)
    (hn : MadeFrom b n) :
    n.Interval ∧ (n.prefixLength ≤ m.prefixLength → Laminar m n) :=
  ⟨hn.sound.canonical.interval, hm.sound.canonical.laminar⟩

/-- 192.0.2.64/26 is read from a literal, and 192.0.2.0/24 is what a forced mask makes of
192.0.2.77. -/
theorem interval_and_laminar_of_literal :
    MadeFrom (.ofNat .v4 0xC0000240) ⟨.ofNat .v4 0xC0000240, 26⟩ ∧
    MadeFrom (.ofNat .v4 0xC000024D) ⟨.ofNat .v4 0xC0000200, 24⟩ ∧
    Interval ⟨.ofNat .v4 0xC0000200, 24⟩ ∧
    Laminar ⟨.ofNat .v4 0xC0000240, 26⟩ ⟨.ofNat .v4 0xC0000200, 24⟩ := by
  have hparts : parts? (Text.trimBlanks "192.0.2.64/26".toList) =
      some (.ofNat .v4 0xC0000240, 26) := by decide
  have hparse : parse "192.0.2.64/26" = .ok ⟨.ofNat .v4 0xC0000240, 26⟩ := rfl
  have hmask : mask (.ofNat .v4 0xC000024D) 24 true = .ok ⟨.ofNat .v4 0xC0000200, 24⟩ := rfl
  have hm := MadeFrom.literal hparts hparse
  have hn := MadeFrom.mask hmask
  obtain ⟨hinterval, hlaminar⟩ := interval_and_laminar hm hn
  exact ⟨hm, hn, hinterval, hlaminar (by decide)⟩

/-- An IPv4-mapped address does not lie in the network of the IPv4 address. -/
example : contains ⟨.ofNat .v4 0xC0000200, 24⟩ (.ofNat .v6 0xFFFFC0000201) = false := by decide

end Network

end SenderPolicy
