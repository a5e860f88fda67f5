import SenderPolicy.Policy.Record
import SenderPolicy.Proofs.Net.Word

/-!
# How networks are made

A network is made of an address: by a mask, as the network of a single host, from a literal, or from
an address that a record authorises.  The base address of one network can be what another one is
made of, and so on (`Network.MadeFrom`).  Whatever is made in this way is `Sound`: this is the one
place where it is shown that every way of making a network comes down to a mask.
-/

namespace SenderPolicy

namespace Network

/-- The network is made of the address, in one step or in several. -/
inductive MadeFrom : Address → Network → Prop where
  /-- By a mask, strict or forced. -/
  | mask {input : Address} {p : Nat} {force : Bool} {n : Network}
      (h : Network.mask input p force = .ok n) : MadeFrom input n
  /-- As the network of a single host. -/
  | host (input : Address) : MadeFrom input (Network.host input)
  /-- From a literal, of its address part. -/
  | literal {input : Address} {p : Nat} {text : String} {n : Network}
      (hparts : Network.parts? (Text.trimBlanks text.toList) = some (input, p))
      (h : Network.parse text = .ok n) : MadeFrom input n
  /-- From an authorised address. -/
  | known {known : KnownAddress} {p : Nat} {network : KnownNetwork}
      (h : known.toNetwork p = .ok network) : MadeFrom known.address network.network
  /-- Of the base address of another one. -/
  | again {input : Address} {m n : Network} (hm : MadeFrom input m) (hn : MadeFrom m.base n) :
      MadeFrom input n

/-- What holds of a network that is made of an address. -/
structure Sound (input : Address) (n : Network) : Prop where
  /-- The prefix fits the family. -/
  prefixLength_le : n.prefixLength ≤ n.family.width
  /-- No bit of the base is set past the prefix. -/
  bit_eq_false : ∀ i, n.prefixLength ≤ i → i < n.family.width → n.base.bit i = false
  /-- The family is that of the address. -/
  family_eq : n.family = input.family
  /-- Asking in words whether an address lies in the network has no fault, and the right answer. -/
  contains_eq : ∀ a, Word.contains n a = .ok (n.contains a)

theorem Canonical.sound {n : Network} {input : Address} (h : n.Canonical)
    (hfamily : n.family = input.family) : n.Sound input where
  prefixLength_le := h.1
  bit_eq_false := Address.truncate_eq_self_iff_bit.mp h.2
  family_eq := hfamily
  contains_eq := Word.contains_eq h.1

theorem Sound.canonical {n : Network} {input : Address} (h : n.Sound input) : n.Canonical :=
  ⟨h.prefixLength_le, Address.truncate_eq_self_iff_bit.mpr h.bit_eq_false⟩

theorem sound_of_mask_eq_ok {input : Address} {p : Nat} {force : Bool} {n : Network}
    (h : Network.mask input p force = .ok n) : n.Sound input := by
  refine (canonical_of_mask_eq_ok h).sound ?_
  obtain ⟨-, rfl⟩ := eq_of_mask_eq_ok h
  rfl

/-- A literal is read by a strict mask. -/
theorem mask_eq_ok_of_parse_eq_ok {input : Address} {p : Nat} {text : String} {n : Network}
    (hparts : parts? (Text.trimBlanks text.toList) = some (input, p))
    (h : Network.parse text = .ok n) : Network.mask input p false = .ok n := by
  rw [Network.parse, hparts] at h
  dsimp only at h
  split at h
  · next hmask =>
    cases h
    exact hmask
  · cases h

/-- A literal has an address part. -/
theorem exists_parts?_of_parse_eq_ok {text : String} {n : Network} (h : Network.parse text = .ok n) :
    ∃ input p, parts? (Text.trimBlanks text.toList) = some (input, p) := by
  rw [Network.parse] at h
  split at h
  · cases h
  · next input p hparts => exact ⟨input, p, hparts⟩

/-- An authorised address is made a network by a strict mask. -/
theorem mask_eq_ok_of_toNetwork_eq_ok {known : KnownAddress} {p : Nat} {network : KnownNetwork}
    (h : known.toNetwork p = .ok network) :
    Network.mask known.address p false = .ok network.network := by
  rw [KnownAddress.toNetwork] at h
  cases hmask : Network.mask known.address p false with
  | ok n =>
    rw [hmask] at h
    cases h
    rfl
  | error e =>
    rw [hmask] at h
    cases h

/-- Whatever is made of an address is sound. -/
theorem MadeFrom.sound {input : Address} {n : Network} (h : MadeFrom input n) : n.Sound input := by
  induction h with
  | mask h => exact sound_of_mask_eq_ok h
  | host input => exact (canonical_host input).sound rfl
  | literal hparts h => exact sound_of_mask_eq_ok (mask_eq_ok_of_parse_eq_ok hparts h)
  | known h => exact sound_of_mask_eq_ok (mask_eq_ok_of_toNetwork_eq_ok h)
  | again _ _ ihm ihn => exact ihn.canonical.sound (ihn.family_eq.trans ihm.family_eq)

end Network

end SenderPolicy
