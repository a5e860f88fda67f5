import SenderPolicy.Proofs.Net.Word

/-!
# Masks round down

A mask clears the bits of an address past a prefix.  As a number, the address is rounded down to a
multiple of a power of two, and what a mask does, and when it refuses to, can be said by division.

* `Address.truncate_truncate_eq_min`: of two masks in a row the shorter prefix counts.
* `Network.mask_strict_of_dvd`, `Network.mask_strict_of_not_dvd`: a strict mask asks whether the
  address is such a multiple already.
* `Network.roundsDown` puts it together, for an address of either family and all prefix lengths, and
  says of the mask in machine words that it does the same.
-/

namespace SenderPolicy

namespace Address

variable (a : Address) (p q : Nat)

/-- Of two prefixes in a row the shorter one counts. -/
theorem truncate_truncate_eq_min : (a.truncate p).truncate q = a.truncate (min p q) := by
  refine Address.ext rfl (Nat.eq_of_testBit_eq fun i => ?_)
  rw [testBit_truncate, testBit_truncate, testBit_truncate, family_truncate, ← Bool.and_assoc]
  congr 1
  rw [← Bool.decide_and, decide_eq_decide]
  omega

end Address

namespace Network

variable {a : Address} {p q : Nat}

/-- A strict mask leaves alone what is on a boundary. -/
theorem mask_strict_of_dvd (hp : p ≤ a.family.width) (h : 2 ^ (a.family.width - p) ∣ a.bits) :
    mask a p false = .ok ⟨a.truncate p, p⟩ := by
  have hself := Address.truncate_eq_self_iff.mpr h
  rw [mask, if_neg (Nat.not_lt.mpr hp), if_neg (fun hne => hne.1 hself)]

/-- It refuses everything else, and names the address with the prefix length. -/
theorem mask_strict_of_not_dvd (hp : p ≤ a.family.width)
    (h : ¬2 ^ (a.family.width - p) ∣ a.bits) :
    mask a p false = .error (.invalidNetwork (text ⟨a, p⟩)) := by
  have hne : a.truncate p ≠ a := fun hself => h (Address.truncate_eq_self_iff.mp hself)
  rw [mask, if_neg (Nat.not_lt.mpr hp), if_pos ⟨hne, rfl⟩]

/-- A second mask is the first one with the shorter of the two prefixes. -/
theorem mask_truncate (hq : q ≤ a.family.width) :
    mask (a.truncate p) q true = .ok ⟨a.truncate (min p q), q⟩ := by
  have hfits : q ≤ (a.truncate p).family.width := hq
  rw [mask_forced hfits, Address.truncate_truncate_eq_min]

/-- What the masks of an address come to. -/
structure RoundsDown (a : Address) : Prop where
  /-- In machine words a mask has no fault, and makes what it makes in numbers. -/
  in_words : ∀ (p : BitVec 8) (force : Bool), Word.mask a p force = .ok (mask a p.toNat force)
  /-- A forced mask rounds the address down to a multiple. -/
  forced : ∀ p ≤ a.family.width, ∃ n, mask a p true = .ok n ∧ n.family = a.family ∧
    n.prefixLength = p ∧
    n.base.bits = a.bits / 2 ^ (a.family.width - p) * 2 ^ (a.family.width - p)
  /-- Masked again, it is rounded down by the shorter of the two prefixes. -/
  again : ∀ p ≤ a.family.width, ∀ q ≤ a.family.width, ∀ n, mask a p true = .ok n →
    ∃ m, mask n.base q true = .ok m ∧ m.family = a.family ∧ m.prefixLength = q ∧
      m.base.bits = a.bits / 2 ^ (a.family.width - min p q) * 2 ^ (a.family.width - min p q)
  /-- Two masks in a row are one. -/
  composes : ∀ p q n m, mask a p true = .ok n → mask n.base q true = .ok m →
    ∃ k, mask a (min p q) true = .ok k ∧ m.base = k.base
  /-- The same mask a second time changes nothing. -/
  idempotent : ∀ p n, mask a p true = .ok n → mask n.base p true = .ok n
  /-- A strict mask succeeds on the multiples, and on nothing else. -/
  strict_iff : ∀ p ≤ a.family.width,
    (∃ n, mask a p false = .ok n) ↔ 2 ^ (a.family.width - p) ∣ a.bits
  /-- What it makes of them is what a forced mask makes. -/
  strict_eq : ∀ p ≤ a.family.width, 2 ^ (a.family.width - p) ∣ a.bits →
    mask a p false = mask a p true
  /-- Everything else is no network. -/
  strict_error : ∀ p ≤ a.family.width, ¬2 ^ (a.family.width - p) ∣ a.bits →
    mask a p false = .error (.invalidNetwork (text ⟨a, p⟩))
  /-- Neither mask takes a prefix that is longer than the address. -/
  too_long : ∀ p force, a.family.width < p → mask a p force = .error (.invalidPrefix p a.family)

theorem strict_isOk_iff (hp : p ≤ a.family.width) :
    (∃ n, mask a p false = .ok n) ↔ 2 ^ (a.family.width - p) ∣ a.bits := by
  by_cases h : 2 ^ (a.family.width - p) ∣ a.bits
  · exact ⟨fun _ => h, fun _ => ⟨_, mask_strict_of_dvd hp h⟩⟩
  · rw [mask_strict_of_not_dvd hp h]
    simp [h]

/-- Masks round down: an address of either family, every prefix length, both modes. -/
theorem roundsDown (a : Address) : RoundsDown a where
  in_words := Word.mask_eq a
  forced p hp := ⟨_, mask_forced hp, rfl, rfl, Address.bits_truncate a p⟩
  again p hp q hq n hn := by
    obtain ⟨-, rfl⟩ := eq_of_mask_eq_ok hn
    exact ⟨_, mask_truncate hq, rfl, rfl, Address.bits_truncate a (min p q)⟩
  composes p q n m hn hm := by
    obtain ⟨hp, rfl⟩ := eq_of_mask_eq_ok hn
    obtain ⟨hq, rfl⟩ := eq_of_mask_eq_ok hm
    have hmin : min p q ≤ a.family.width := Nat.le_trans (Nat.min_le_left p q) hp
    exact ⟨_, mask_forced hmin, Address.truncate_truncate_eq_min a p q⟩
  idempotent p n hn := by
    obtain ⟨hp, rfl⟩ := eq_of_mask_eq_ok hn
    rw [mask_truncate hp, Nat.min_self]
  strict_iff p hp := strict_isOk_iff hp
  strict_eq p hp h := by rw [mask_strict_of_dvd hp h, mask_forced hp]
  strict_error p hp h := mask_strict_of_not_dvd hp h
  too_long p force h := mask_of_width_lt force h

end Network

end SenderPolicy
