import SenderPolicy.Net.Literal
import SenderPolicy.Policy.Literal
import SenderPolicy.Proofs.Net.Grammar

/-!
# What a text with a slash can be

The value of an `ip4` or `ip6` clause is read as a network if there is a slash in it, and as an
address otherwise.  That choice loses nothing: no address is written with a slash, and no network
without one.  So what a value is can be asked of the two readers alone, and `Literal.read` is left
out of it.

* `Address.slash_not_mem_of_parse_eq_ok`: addresses are written with digits, dots and colons, which
  is a matter of the grammar.
* `Literal.address?_read_eq_some_iff`, `Literal.network?_read_eq_some_iff`: a value gives an address
  or a network if the reader of addresses or of networks says so and the family is the one named.
-/

namespace SenderPolicy

namespace Address

/-- A text denotes an address if it does so without the blanks around it. -/
theorem parse_eq_ok_iff {text : String} {a : Address} :
    parse text = .ok a ↔ Denotes (Text.trimBlanks text.toList) a := by
  rw [← read?_eq_some_iff, parse]
  cases read? (Text.trimBlanks text.toList) <;> simp

/-- Addresses are written with digits, dots and colons. -/
theorem slash_not_mem_of_parse_eq_ok {value : String} {a : Address} (h : parse value = .ok a) :
    '/' ∉ value.toList := by
  have hslash : '/' ∉ Text.trimBlanks value.toList := (parse_eq_ok_iff.mp h).not_mem (by decide)
  rwa [Text.mem_trimBlanks_iff (by decide)] at hslash

end Address

theorem Network.slash_mem_of_parse_eq_ok {value : String} {n : Network}
    (h : parse value = .ok n) : '/' ∈ value.toList := by
  rw [← Text.mem_trimBlanks_iff (by decide)]
  refine Decidable.byContradiction fun hslash => ?_
  rw [parse, parts?, List.splitOn_eq_singleton hslash] at h
  cases h

namespace Network

/-- A strict mask leaves the address as it is, and succeeds on a canonical network only. -/
theorem mask_strict_eq_ok_iff {a : Address} {p : Nat} {n : Network} :
    mask a p false = .ok n ↔ n = ⟨a, p⟩ ∧ n.Canonical := by
  constructor
  · intro h
    obtain ⟨hp, rfl⟩ := eq_of_mask_eq_ok h
    have hcanonical := canonical_of_mask_eq_ok h
    rw [mask, if_neg (Nat.not_lt.mpr hp)] at h
    split at h
    · cases h
    · next hstrict =>
      have hself : a.truncate p = a := by simpa using hstrict
      rw [hself] at hcanonical ⊢
      exact ⟨rfl, hcanonical⟩
  · rintro ⟨rfl, hp, hself⟩
    rw [mask, if_neg (Nat.not_lt.mpr hp), if_neg (fun h => h.1 hself), hself]

/-- A text denotes a network if its parts are those of a canonical one. -/
theorem parse_eq_ok_iff {text : String} {n : Network} :
    parse text = .ok n ↔
      parts? (Text.trimBlanks text.toList) = some (n.base, n.prefixLength) ∧ n.Canonical := by
  rw [parse]
  cases hparts : parts? (Text.trimBlanks text.toList) with
  | none => simp only [reduceCtorEq, false_and]
  | some parts =>
    obtain ⟨a, p⟩ := parts
    have hmask := mask_strict_eq_ok_iff (a := a) (p := p) (n := n)
    have hparts : some (a, p) = some (n.base, n.prefixLength) ↔ n = ⟨a, p⟩ := by
      rw [Option.some_inj, Prod.mk.injEq, eq_comm, @eq_comm _ p]
      exact (Network.mk.injEq ..).to_iff.symm
    rw [hparts, ← hmask]
    dsimp only
    cases mask a p false with
    | ok m => rfl
    | error e => simp only [reduceCtorEq]

end Network

/-! ## Literals -/

namespace Literal

/-- A value gives the address that it denotes, if that is of the family named. -/
theorem address?_read_eq_some_iff {family : Family} {value : String} {a : Address} :
    (read family value).address? = some a ↔ Address.parse value = .ok a ∧ a.family = family := by
  rw [read]
  split
  · next hslash =>
    constructor
    · intro h
      split at h
      · split at h <;> cases h
      · cases h
    · exact fun h => absurd hslash (Address.slash_not_mem_of_parse_eq_ok h.1)
  · split
    · next b hb =>
      rw [hb, Except.ok.injEq]
      split
      · next hfamily =>
        constructor
        · intro h
          cases h
          exact ⟨rfl, hfamily⟩
        · rintro ⟨rfl, -⟩
          rfl
      · next hfamily =>
        constructor
        · intro h
          cases h
        · rintro ⟨rfl, h⟩
          exact absurd h hfamily
    · next hb =>
      rw [hb]
      exact ⟨nofun, nofun⟩

/-- A value gives the network that it denotes, if that is of the family named. -/
theorem network?_read_eq_some_iff {family : Family} {value : String} {n : Network} :
    (read family value).network? = some n ↔ Network.parse value = .ok n ∧ n.family = family := by
  rw [read]
  split
  · split
    · next m hm =>
      rw [hm, Except.ok.injEq]
      split
      · next hfamily =>
        constructor
        · intro h
          cases h
          exact ⟨rfl, hfamily⟩
        · rintro ⟨rfl, -⟩
          rfl
      · next hfamily =>
        constructor
        · intro h
          cases h
        · rintro ⟨rfl, h⟩
          exact absurd h hfamily
    · next hm =>
      rw [hm]
      exact ⟨nofun, nofun⟩
  · next hslash =>
    constructor
    · intro h
      split at h
      · split at h <;> cases h
      · cases h
    · exact fun h => absurd (Network.slash_mem_of_parse_eq_ok h.1) hslash

/-- What is no address is noted as an invalid one if there is no slash in it. -/
theorem read_eq_invalidAddress_iff {family : Family} {value : String} :
    read family value = invalidAddress ↔
      '/' ∉ value.toList ∧ ¬∃ a, Address.parse value = .ok a ∧ a.family = family := by
  rw [read]
  split
  · next hslash =>
    refine ⟨fun h => ?_, fun h => absurd hslash h.1⟩
    split at h
    · split at h <;> cases h
    · cases h
  · next hslash =>
    rw [and_iff_right hslash]
    cases hparse : Address.parse value with
    | ok a => by_cases hfamily : a.family = family <;> simp [hfamily]
    | error e => simp

/-- What is no network is noted as an invalid one if there is a slash in it. -/
theorem read_eq_invalidNetwork_iff {family : Family} {value : String} :
    read family value = invalidNetwork ↔
      '/' ∈ value.toList ∧ ¬∃ n, Network.parse value = .ok n ∧ n.family = family := by
  rw [read]
  split
  · next hslash =>
    rw [and_iff_right hslash]
    cases hparse : Network.parse value with
    | ok n => by_cases hfamily : n.family = family <;> simp [hfamily]
    | error e => simp
  · next hslash =>
    refine ⟨fun h => ?_, fun h => absurd h.1 hslash⟩
    split at h
    · split at h <;> cases h
    · cases h

end Literal

end SenderPolicy
