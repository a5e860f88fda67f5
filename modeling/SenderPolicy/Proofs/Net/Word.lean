import SenderPolicy.Proofs.Net.Prefix

/-!
# Masks in machine words

`Network.mask` and `Network.contains` are said with numbers that have no bound.  A machine does the
same in words: prefix lengths are words of 8 bits and the bits of an address a word of 128, of which
an IPv4 address uses the last 32.  There a difference can fall below zero, a shift can be as long as
the word, and a number can be too large for the word it is put into; each of them is a `Fault`.

* `mask_eq`: in words a mask has no fault, whatever the address and the prefix length, and it makes
  what it makes in numbers.
* `contains_eq`: neither has the question whether an address lies in a network, as long as the
  prefix of the network fits its family.
* `contains_eq_underflow`: if it does not fit, any address of the family is a fault.
* `exists_contains_eq_ok_iff`, `contains_base_iff`: so the answers tell whether the prefix fits, and
  whether the network is canonical.

A shift may drop bits at the upper end of the word.  Those are bits that have no place in an address
of the family and are cleared in shorter words as well, so nothing is lost by it; that the result is
that of numbers without a bound says this too.
-/

namespace SenderPolicy

namespace Word

/-- What can go wrong in the arithmetic of words. -/
inductive Fault where
  /-- A difference falls below zero. -/
  | underflow
  /-- A shift is as long as the word, or longer. -/
  | overflow
  /-- A number is too large for the word it is put into. -/
  | loss
  deriving DecidableEq, Repr

variable {v w : Nat}

/-- The difference of two words. -/
def sub (x y : BitVec w) : Except Fault (BitVec w) :=
  if x < y then .error .underflow else .ok (x - y)

/-- A word shifted to the left. -/
def shiftLeft (x : BitVec w) (count : BitVec v) : Except Fault (BitVec w) :=
  if w ≤ count.toNat then .error .overflow else .ok (x <<< count.toNat)

/-- A word put into another one. -/
def narrow (w : Nat) (x : BitVec v) : Except Fault (BitVec w) :=
  if x.toNat < 2 ^ w then .ok (x.setWidth w) else .error .loss

/-- The number of bits of an address. -/
def width : Family → BitVec 8
  | .v4 => 32
  | .v6 => 128

/-- The bits of an address, at the lower end of a word. -/
def toBits (a : Address) : BitVec 128 := BitVec.ofNat 128 a.bits

/-- The address that has the bits of a word. -/
def ofBits : Family → BitVec 128 → Except Fault Address
  | .v4, x => do
    let y ← narrow 32 x
    return ⟨.v4, y.toNat, y.isLt⟩
  | .v6, x => return ⟨.v6, x.toNat, x.isLt⟩

/-- As many ones as the width says. -/
def ones (width : BitVec 8) : Except Fault (BitVec 128) :=
  if 128 ≤ width then return .allOnes 128 else do sub (← shiftLeft 1 width) 1

/-- Ones at the places of a prefix. -/
def maskBits (width prefixLength : BitVec 8) : Except Fault (BitVec 128) :=
  if prefixLength = 0 then return 0
  else do
    let all ← ones width
    return (← shiftLeft all (← sub width prefixLength)) &&& all

/-- `Network.mask` in words. -/
def mask (a : Address) (prefixLength : BitVec 8) (force : Bool) :
    Except Fault (Except NetError Network) :=
  if width a.family < prefixLength then
    return .error (.invalidPrefix prefixLength.toNat a.family)
  else do
    let masked := toBits a &&& (← maskBits (width a.family) prefixLength)
    if masked ≠ toBits a ∧ force = false then
      return .error (.invalidNetwork (Network.text ⟨a, prefixLength.toNat⟩))
    else return .ok ⟨← ofBits a.family masked, prefixLength.toNat⟩

/-- `Network.contains` in words. -/
def contains (n : Network) (a : Address) : Except Fault Bool :=
  if n.family ≠ a.family then return false
  else do
    let masked := toBits a &&& (← maskBits (width n.family) (.ofNat 8 n.prefixLength))
    return masked == toBits n.base

/-! ## The mask -/

theorem toNat_width (family : Family) : (width family).toNat = family.width := by
  cases family <;> rfl

theorem sub_eq {x y : BitVec w} (h : y.toNat ≤ x.toNat) :
    ∃ z : BitVec w, sub x y = .ok z ∧ z.toNat = x.toNat - y.toNat := by
  have hlt : ¬x < y := by
    rw [BitVec.lt_def]
    omega
  exact ⟨x - y, if_neg hlt, BitVec.toNat_sub_of_le (BitVec.le_def.mpr h)⟩

theorem shiftLeft_eq {x : BitVec w} {count : BitVec v} (h : count.toNat < w) :
    shiftLeft x count = .ok (x <<< count.toNat) := if_neg (Nat.not_le.mpr h)

theorem width_le (family : Family) : family.width ≤ 128 := by
  cases family <;> decide

theorem exists_ones_width (family : Family) :
    ∃ all, ones (width family) = .ok all ∧ ∀ i, all.getLsbD i = decide (i < family.width) := by
  have hones : ones (width family) = .ok (.ofNat 128 (2 ^ family.width - 1)) := by
    cases family <;> rfl
  refine ⟨_, hones, fun i => ?_⟩
  rw [BitVec.getLsbD_ofNat, Nat.testBit_two_pow_sub_one]
  have hle := width_le family
  by_cases hi : i < family.width
  · simp [hi, Nat.lt_of_lt_of_le hi hle]
  · simp [hi]

/-- The mask has ones at the places of the prefix, and nowhere else. -/
theorem exists_maskBits_width {family : Family} {p : BitVec 8} (hp : p.toNat ≤ family.width) :
    ∃ m, maskBits (width family) p = .ok m ∧
      ∀ i, m.getLsbD i = (decide (family.width - p.toNat ≤ i) && decide (i < family.width)) := by
  by_cases hzero : p = 0
  · refine ⟨0, by rw [maskBits, if_pos hzero]; rfl, fun i => ?_⟩
    subst hzero
    simp
  · obtain ⟨all, hall, hbits⟩ := exists_ones_width family
    have hfits : p.toNat ≤ (width family).toNat := by rwa [toNat_width]
    obtain ⟨count, hcount, hvalue⟩ := sub_eq hfits
    rw [toNat_width] at hvalue
    have hpositive : 0 < p.toNat := by
      refine Nat.pos_of_ne_zero fun h => hzero ?_
      exact BitVec.eq_of_toNat_eq h
    have hle := width_le family
    have hshift : shiftLeft all count = .ok (all <<< count.toNat) := shiftLeft_eq (by omega)
    refine ⟨all <<< count.toNat &&& all, ?_, fun i => ?_⟩
    · simp only [maskBits, if_neg hzero, hall, hcount, hshift, bind, Except.bind, pure, Except.pure]
    · rw [BitVec.getLsbD_and, BitVec.getLsbD_shiftLeft, hbits, hbits, hvalue]
      by_cases hi : i < family.width
      · have hword : i < 128 := Nat.lt_of_lt_of_le hi hle
        have hbefore : i - (family.width - p.toNat) < family.width := by omega
        by_cases hplace : family.width - p.toNat ≤ i
        · simp [hi, hword, hbefore, hplace]
        · simp [hplace, Nat.lt_of_not_le hplace]
      · simp [hi]

theorem toNat_toBits (a : Address) : (toBits a).toNat = a.bits := by
  rw [toBits, BitVec.toNat_ofNat]
  exact Nat.mod_eq_of_lt (Nat.lt_of_lt_of_le a.bits_lt
    (Nat.pow_le_pow_right Nat.two_pos (width_le a.family)))

/-- Behind the mask an address has the bits of its prefix. -/
theorem toNat_toBits_and {a : Address} {p : Nat} {m : BitVec 128} (hm : ∀ i, m.getLsbD i =
      (decide (a.family.width - p ≤ i) && decide (i < a.family.width))) :
    (toBits a &&& m).toNat = (a.truncate p).bits := by
  refine Nat.eq_of_testBit_eq fun i => ?_
  rw [BitVec.testBit_toNat, BitVec.getLsbD_and, hm, Address.testBit_truncate,
    ← BitVec.testBit_toNat, toNat_toBits]
  by_cases hi : i < a.family.width
  · simp [hi, Bool.and_comm]
  · simp [hi, Address.testBit_eq_false (Nat.le_of_not_lt hi)]

/-- An address is put together again from its bits. -/
theorem ofBits_eq {a : Address} {x : BitVec 128} (h : x.toNat = a.bits) :
    ofBits a.family x = .ok a := by
  obtain ⟨family, bits, hlt⟩ := a
  cases family with
  | v4 =>
    have hsmall : x.toNat < 2 ^ 32 := h ▸ hlt
    have hnarrow : narrow 32 x = .ok (x.setWidth 32) := if_pos hsmall
    have hsame : (x.setWidth 32).toNat = bits := by
      rw [BitVec.toNat_setWidth, Nat.mod_eq_of_lt hsmall, h]
    simp only [ofBits, hnarrow, hsame, bind, Except.bind, pure, Except.pure]
  | v6 => simp only [ofBits, h, pure, Except.pure]

/-! ## The two functions -/

/-- In words a mask has no fault, and makes what it makes in numbers. -/
theorem mask_eq (a : Address) (p : BitVec 8) (force : Bool) :
    mask a p force = .ok (Network.mask a p.toNat force) := by
  rw [mask, Network.mask]
  by_cases hp : a.family.width < p.toNat
  · have hlt : width a.family < p := by rwa [BitVec.lt_def, toNat_width]
    rw [if_pos hp, if_pos hlt]
    rfl
  · have hlt : ¬width a.family < p := by rwa [BitVec.lt_def, toNat_width]
    rw [if_neg hp, if_neg hlt]
    obtain ⟨m, hm, hbits⟩ := exists_maskBits_width (Nat.not_lt.mp hp)
    have hmasked := toNat_toBits_and hbits
    have hsame : toBits a &&& m = toBits a ↔ a.truncate p.toNat = a := by
      rw [← BitVec.toNat_inj, hmasked, toNat_toBits, Address.ext_iff]
      simp
    have haddress : ofBits a.family (toBits a &&& m) = .ok (a.truncate p.toNat) := ofBits_eq hmasked
    simp only [hm, haddress, ne_eq, hsame, bind, Except.bind, pure, Except.pure]
    split <;> rfl

/-- Where the prefix fits the family, membership has no fault either. -/
theorem contains_eq {n : Network} (hn : n.prefixLength ≤ n.family.width) (a : Address) :
    contains n a = .ok (n.contains a) := by
  rw [contains, Network.contains]
  by_cases hfamily : n.family = a.family
  · have hbyte : (BitVec.ofNat 8 n.prefixLength).toNat = n.prefixLength := by
      have hle := width_le n.family
      rw [BitVec.toNat_ofNat]
      omega
    obtain ⟨m, hm, hbits⟩ := exists_maskBits_width (hbyte.symm ▸ hn)
    rw [hbyte, hfamily] at hbits
    have hmasked := toNat_toBits_and hbits
    have hsame : toBits a &&& m = toBits n.base ↔ a.truncate n.prefixLength = n.base := by
      rw [← BitVec.toNat_inj, hmasked, toNat_toBits, Address.ext_iff]
      exact (and_iff_right hfamily.symm).symm
    have hword : (toBits a &&& m == toBits n.base) = (a.truncate n.prefixLength == n.base) := by
      rw [Bool.eq_iff_iff, beq_iff_eq, beq_iff_eq]
      exact hsame
    have heq : (n.family == a.family) = true := beq_iff_eq.mpr hfamily
    rw [if_neg (fun hne => hne hfamily), hm, heq, Bool.true_and, ← hword]
    rfl
  · have hne : (n.family == a.family) = false := beq_eq_false_iff_ne.mpr hfamily
    rw [if_pos hfamily, hne, Bool.false_and]
    rfl

/-- Where it does not fit, an address of the same family is a fault. -/
theorem contains_eq_underflow {n : Network} (hn : n.family.width < n.prefixLength)
    (hbyte : n.prefixLength < 2 ^ 8) {a : Address} (ha : a.family = n.family) :
    contains n a = .error .underflow := by
  have hvalue : (BitVec.ofNat 8 n.prefixLength).toNat = n.prefixLength := by
    rw [BitVec.toNat_ofNat, Nat.mod_eq_of_lt hbyte]
  have hzero : BitVec.ofNat 8 n.prefixLength ≠ 0 := by
    intro h
    have hnat : n.prefixLength = 0 := hvalue.symm.trans (congrArg BitVec.toNat h)
    omega
  have hsub : sub (width n.family) (.ofNat 8 n.prefixLength) = .error .underflow := by
    refine if_pos ?_
    rwa [BitVec.lt_def, toNat_width, hvalue]
  obtain ⟨all, hall, -⟩ := exists_ones_width n.family
  simp only [contains, ha, ne_eq, not_true_eq_false, if_false, maskBits, if_neg hzero, hall, hsub,
    bind, Except.bind]

/-- Without a fault for any address the prefix fits the family, and the other way round. -/
theorem exists_contains_eq_ok_iff {n : Network} (hbyte : n.prefixLength < 2 ^ 8) :
    (∀ a, ∃ answer, contains n a = .ok answer) ↔ n.prefixLength ≤ n.family.width := by
  constructor
  · intro h
    refine Nat.not_lt.mp fun hwidth => ?_
    obtain ⟨answer, hanswer⟩ := h n.base
    have hfault := contains_eq_underflow (a := n.base) hwidth hbyte rfl
    cases hanswer.symm.trans hfault
  · intro hfits a
    exact ⟨n.contains a, contains_eq hfits a⟩

/-- A network has its own base exactly if it is canonical. -/
theorem contains_base_iff {n : Network} (hbyte : n.prefixLength < 2 ^ 8) :
    contains n n.base = .ok true ↔ n.Canonical := by
  by_cases hfits : n.prefixLength ≤ n.family.width
  · have hself : n.contains n.base = true ↔ n.base.truncate n.prefixLength = n.base := by
      simp [Network.contains, Network.family]
    rw [contains_eq hfits, Except.ok.injEq, hself]
    exact (and_iff_right hfits).symm
  · rw [contains_eq_underflow (Nat.not_le.mp hfits) hbyte rfl]
    constructor
    · intro h
      cases h
    · intro h
      exact absurd h.1 hfits

end Word

end SenderPolicy
