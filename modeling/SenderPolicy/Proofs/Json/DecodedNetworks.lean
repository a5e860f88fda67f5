import SenderPolicy.Proofs.Json.RoundTrip
import SenderPolicy.Proofs.Json.Settled
import SenderPolicy.Proofs.Net.Word

/-!
# Networks that are decoded

A network is documented never to have bits set past its prefix.  Whatever is made of an address is
as documented (`Network.MadeFrom.sound`), but a network can be decoded as well, and then nobody has
a look at it: every address is decoded with every byte behind it, and a record with such networks is
decoded with them.

What is left is said by `decoded_network_iff`.  Two questions tell whether a decoded network is as
documented: whether an address can be asked for at all, in the arithmetic of words, and whether the
network has its own base.
-/

namespace SenderPolicy

/-- What is documented of a network, and what it is good for. -/
structure Network.AsDocumented (n : Network) : Prop where
  /-- The prefix fits the family. -/
  prefixLength_le : n.prefixLength ≤ n.family.width
  /-- No bit of the base is set past the prefix. -/
  bit_eq_false : ∀ i, n.prefixLength ≤ i → i < n.family.width → n.base.bit i = false
  /-- In words no address is a fault. -/
  exists_contains : ∀ a, ∃ answer, Word.contains n a = .ok answer
  /-- The network has its own base. -/
  contains_base : Word.contains n n.base = .ok true

/-- The bounds of the shapes are bytes. -/
theorem Network.lt_of_le_maxPrefixLength {p : Nat} (hp : p ≤ maxPrefixLength) : p < 2 ^ 8 :=
  Nat.lt_succ_of_le hp

theorem Network.asDocumented_iff {n : Network} (hn : n.prefixLength ≤ maxPrefixLength) :
    n.AsDocumented ↔ n.Canonical := by
  have hbyte := lt_of_le_maxPrefixLength hn
  constructor
  · intro h
    exact (Word.contains_base_iff hbyte).mp h.contains_base
  · intro h
    exact ⟨h.1, Address.truncate_eq_self_iff_bit.mp h.2,
      (Word.exists_contains_eq_ok_iff hbyte).mpr h.1, (Word.contains_base_iff hbyte).mpr h⟩

namespace Json

/-! ## What is decoded -/

theorem held_network : Held Network fun n => n.prefixLength ≤ Network.maxPrefixLength := by
  rintro json ⟨members, rfl, base, others, rfl, -, count, none, rfl, ⟨p, rfl, hp⟩, rfl⟩ n hvalue
  obtain ⟨a, -, hvalue⟩ := Option.bind_eq_some_iff.mp hvalue
  obtain rfl := Option.some.inj hvalue
  exact hp

theorem held_knownNetwork :
    Held KnownNetwork fun known => known.network.prefixLength ≤ Network.maxPrefixLength := by
  rintro json ⟨members, rfl, origin, others, rfl, ⟨origin, rfl, -⟩, network, none, rfl, hnetwork,
    rfl⟩ known hvalue
  obtain ⟨n, hn, hvalue⟩ := Option.bind_eq_some_iff.mp hvalue
  obtain rfl := Option.some.inj hvalue
  exact held_network network hnetwork n hn

theorem held_policyRecord : Held PolicyRecord fun record =>
    ∀ known ∈ record.networks, known.network.prefixLength ≤ Network.maxPrefixLength := by
  -- The members in order, and then the conversions that can fail, in the same order.
  rintro json ⟨members, rfl, _, _, rfl, ⟨domain, rfl, -⟩, _, _, rfl, ⟨source, rfl, -⟩,
    _, _, rfl, ⟨raw, rfl, -⟩, _, _, rfl, ⟨version, rfl, -⟩, _, _, rfl, ⟨depth, rfl, -⟩,
    action, _, rfl, -, entries, _, rfl, -, addresses, _, rfl, -, networks, _, rfl, hnetworks,
    explanation, _, rfl, -, issues, _, rfl, -, rfl⟩ record hvalue
  obtain ⟨_, -, hvalue⟩ := Option.bind_eq_some_iff.mp hvalue
  obtain ⟨_, -, hvalue⟩ := Option.bind_eq_some_iff.mp hvalue
  obtain ⟨_, -, hvalue⟩ := Option.bind_eq_some_iff.mp hvalue
  obtain ⟨found, hfound, hvalue⟩ := Option.bind_eq_some_iff.mp hvalue
  obtain ⟨_, -, hvalue⟩ := Option.bind_eq_some_iff.mp hvalue
  obtain ⟨_, -, hvalue⟩ := Option.bind_eq_some_iff.mp hvalue
  obtain rfl := Option.some.inj hvalue
  exact held_knownNetwork.of_mem hnetworks hfound

/-- Of a network that is decoded it is known that its prefix length is a byte, and no more. -/
theorem exists_decode_network_iff (n : Network) :
    (∃ text, decode text = .ok n) ↔ n.prefixLength ≤ Network.maxPrefixLength := by
  constructor
  · rintro ⟨text, htext⟩
    exact held_network.of_decode (by decide) htext
  · intro hn
    exact ⟨encode n, decode_encode (kept_network hn)⟩

/-- A record with one network, and one thing to complain about, since it is refused otherwise. -/
def recordOfNetwork (n : Network) : PolicyRecord where
  domain := "a"
  source := "a"
  raw := "v=spf1 include:b"
  version := "spf1"
  depth := 0
  action := .neutral
  entries := []
  addresses := []
  networks := [⟨"a", n⟩]
  explanation := none
  issues := [.missingRecord "b"]

/-- Neither is more known of the networks of a record that is decoded. -/
theorem exists_decode_record_iff (n : Network) :
    (∃ text, ∃ record : PolicyRecord, decode text = .ok record ∧
      ∃ known ∈ record.networks, known.network = n) ↔
    n.prefixLength ≤ Network.maxPrefixLength := by
  constructor
  · rintro ⟨text, record, htext, known, hknown, rfl⟩
    exact held_policyRecord.of_decode (by decide) htext known hknown
  · intro hn
    have hwords : InWords (recordOfNetwork n) := ⟨Nat.zero_le _, by simp [recordOfNetwork]⟩
    have hlengths : ∀ known ∈ (recordOfNetwork n).networks,
        known.network.prefixLength ≤ Network.maxPrefixLength :=
      List.forall_mem_singleton.mpr hn
    have hissues : (recordOfNetwork n).issues ≠ [] := List.cons_ne_nil _ _
    refine ⟨encode (recordOfNetwork n), recordOfNetwork n, ?_, ⟨"a", n⟩,
      List.mem_singleton_self _, rfl⟩
    rw [decode_encode_policyRecord hwords hlengths, if_neg hissues]

/-! ## Whether it is as documented -/

/-- The networks that are decoded, by themselves or in a record, are those whose prefix length is a
byte.  Among them a network is as documented exactly if it is canonical; it answers for all addresses
exactly if its prefix fits its family, and has its own base exactly if it is canonical. -/
theorem decoded_network_iff (n : Network) :
    ((∃ text, decode text = .ok n) ↔ n.prefixLength ≤ Network.maxPrefixLength) ∧
    ((∃ text, ∃ record : PolicyRecord, decode text = .ok record ∧
      ∃ known ∈ record.networks, known.network = n) ↔
      n.prefixLength ≤ Network.maxPrefixLength) ∧
    (n.prefixLength ≤ Network.maxPrefixLength →
      (n.AsDocumented ↔ n.Canonical) ∧
      ((∀ a, ∃ answer, Word.contains n a = .ok answer) ↔ n.prefixLength ≤ n.family.width) ∧
      (Word.contains n n.base = .ok true ↔ n.Canonical)) := by
  refine ⟨exists_decode_network_iff n, exists_decode_record_iff n, fun hn => ?_⟩
  have hbyte := Network.lt_of_le_maxPrefixLength hn
  exact ⟨Network.asDocumented_iff hn, Word.exists_contains_eq_ok_iff hbyte,
    Word.contains_base_iff hbyte⟩

/-- A network with a bit set past its prefix: it is decoded, answers for all addresses, and does not
have its own base. -/
theorem decoded_network_iff_of_bit :
    let n : Network := ⟨.ofNat .v4 0xC0000201, 24⟩
    (∃ text, decode text = .ok n) ∧
      (∃ text, ∃ record : PolicyRecord, decode text = .ok record ∧
        ∃ known ∈ record.networks, known.network = n) ∧
      ¬n.AsDocumented ∧ (∀ a, ∃ answer, Word.contains n a = .ok answer) ∧
      Word.contains n n.base ≠ .ok true := by
  intro n
  have hn : n.prefixLength ≤ Network.maxPrefixLength := by decide
  obtain ⟨halone, hrecord, hrest⟩ := decoded_network_iff n
  obtain ⟨hdocumented, hanswers, hbase⟩ := hrest hn
  have hcanonical : ¬n.Canonical := by decide
  exact ⟨halone.mpr hn, hrecord.mpr hn, fun h => hcanonical (hdocumented.mp h),
    hanswers.mpr (by decide), fun h => hcanonical (hbase.mp h)⟩

/-- An IPv4 address with a prefix of 33 bits is decoded, and is a fault to ask. -/
theorem not_forall_asDocumented :
    ¬((∀ (text : String) (n : Network), decode text = .ok n → n.AsDocumented) ∧
      ∀ (text : String) (record : PolicyRecord), decode text = .ok record →
        ∀ known ∈ record.networks, known.network.AsDocumented) := by
  rintro ⟨h, -⟩
  let n : Network := ⟨.ofNat .v4 0xC0000201, 33⟩
  let text := "\x7b\"base_address\":\"192.0.2.1\",\"prefix_len\":33\x7d"
  have htext : encode n = text := by cbv
  have hdecode : decode text = .ok n := by
    rw [← htext]
    exact decode_encode (kept_network (by decide))
  have hfits : n.prefixLength ≤ n.family.width := (h text n hdecode).prefixLength_le
  exact absurd hfits (by decide)

end Json

end SenderPolicy
