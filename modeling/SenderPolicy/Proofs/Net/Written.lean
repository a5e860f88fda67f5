import SenderPolicy.Net.Address.Printer
import SenderPolicy.Proofs.Net.Grammar

/-!
# Addresses are read as they are written

The grammar of addresses admits many spellings of one address, and `Address.text` is one of them:
`denotes_chars` says so, and `read?_chars` that reading it gives the address back.

IPv4 is four octets with dots between them, as the grammar has it.  IPv6 has three layouts.

* All eight groups are there.
* A run of zeros is left out (`isEight_compressed`).  What is filled in has the length of the run,
  because the groups were eight.
* The last two groups are in decimal (`isEight_mapped`).  The four octets make the two groups that
  they were taken from.
-/

namespace SenderPolicy

namespace Address

/-! ## IPv4 -/

theorem isOctet_toDigits {n : Nat} (h : n < 256) : IsOctet (Nat.toDigits 10 n) n where
  isDecimal := Numeral.decimal?_eq_some_iff.mp (Numeral.decimal?_toDigits n)
  length_le := by
    rw [Nat.length_toDigits_le_iff (by decide) (by decide)]
    omega
  length_eq_of_zero := by
    by_cases hn : n = 0
    · rw [hn]
      exact fun _ => rfl
    · exact fun hzero => absurd hzero (Numeral.head?_toDigits_ne (by decide) hn)
  le := Nat.le_of_lt_succ h

theorem isQuad_dottedQuad {octets : List Nat} (hlength : octets.length = 4)
    (h : ∀ n ∈ octets, n < 256) : IsQuad (dottedQuad octets) octets :=
  ⟨hlength, _, rfl, forall₂_map fun n hn => isOctet_toDigits (h n hn)⟩

/-! ## IPv6 -/

theorem isGroup_toDigits {n : Nat} (h : n < 65536) : IsGroup (Nat.toDigits 16 n) n where
  isHexadecimal := Numeral.hexadecimal?_eq_some_iff.mp (Numeral.hexadecimal?_toDigits n)
  length_le := by
    rw [Nat.length_toDigits_le_iff (by decide) (by decide)]
    omega

theorem isTail_map {groups : List Nat} (h : ∀ g ∈ groups, g < 65536) :
    IsTail (groups.map (Nat.toDigits 16)) groups := by
  induction groups with
  | nil => exact .nil
  | cons g groups ih =>
    obtain ⟨hg, hrest⟩ := List.forall_mem_cons.mp h
    exact .cons (isGroup_toDigits hg) (ih hrest)

/-- What is left out are as many zeros as the run is long. -/
theorem take_drop_longestZeros (groups : List Nat) :
    (groups.drop (longestZeros groups).1).take (longestZeros groups).2 =
      List.replicate (longestZeros groups).2 0 := by
  refine List.eq_replicate_iff.mpr ⟨?_, fun g hg => eq_zero_of_mem_longestZeros hg⟩
  have hwithin := longestZeros_le groups
  rw [List.length_take, List.length_drop]
  omega

/-- Eight groups, whether a run of zeros is left out or not. -/
theorem isEight_compressed {groups : List Nat} (hlength : groups.length = 8)
    (h : ∀ g ∈ groups, g < 65536) : IsEight (compressed groups) groups := by
  have hwithin := longestZeros_le groups
  have hzeros := take_drop_longestZeros groups
  unfold compressed
  generalize longestZeros groups = run at hwithin hzeros ⊢
  obtain ⟨start, length⟩ := run
  dsimp only at hwithin hzeros ⊢
  split
  · exact .full (isTail_map h) hlength
  · next htwo =>
    have hfront : List.Forall₂ IsGroup ((groups.take start).map (Nat.toDigits 16))
        (groups.take start) :=
      forall₂_map fun g hg => isGroup_toDigits (h g (List.mem_of_mem_take hg))
    have hback : IsTail ((groups.drop (start + length)).map (Nat.toDigits 16))
        (groups.drop (start + length)) :=
      isTail_map fun g hg => h g (List.mem_of_mem_drop hg)
    have hroom : (groups.take start).length + (groups.drop (start + length)).length ≤ 7 := by
      rw [List.length_take, List.length_drop]
      omega
    have hfill : 8 - (groups.take start).length - (groups.drop (start + length)).length =
        length := by
      rw [List.length_take, List.length_drop]
      omega
    have hall : groups.take start ++ List.replicate length 0 ++ groups.drop (start + length) =
        groups := by
      rw [← hzeros, ← List.drop_drop, List.append_assoc, List.take_append_drop,
        List.take_append_drop]
    have height := IsEight.shortened hfront hback hroom
    rw [hfill, hall] at height
    exact height

/-- An IPv4 address behind five zero groups and one of ones. -/
theorem isEight_mapped {a b c d : Nat} (h : ∀ n ∈ [a, b, c, d], n < 256) :
    IsEight ("::ffff:".toList ++ dottedQuad [a, b, c, d])
      [0, 0, 0, 0, 0, 0xffff, a * 256 + b, c * 256 + d] := by
  have hones : IsGroup "ffff".toList 0xffff := group?_eq_some_iff.mp rfl
  have hback := IsTail.cons hones (.quad (isQuad_dottedQuad rfl h))
  have hletters : [':'].intercalate ["ffff".toList, dottedQuad [a, b, c, d]] =
      "ffff:".toList ++ dottedQuad [a, b, c, d] := by
    rw [List.intercalate_cons_cons, List.intercalate_singleton]
    rfl
  have height := IsEight.shortened .nil hback (by simp)
  rw [hletters] at height
  exact height

/-! ## Addresses -/

/-- The last four octets make the last two groups. -/
theorem exists_octets_eq {a : Address} (hfamily : a.family = .v6) :
    ∃ b c d e, a.octets.drop 12 = [b, c, d, e] ∧ (∀ n ∈ [b, c, d, e], n < 256) ∧
      a.groups.drop 6 = [b * 256 + c, d * 256 + e] := by
  have hoctets : a.octets.drop 12 = Numeral.digits 256 4 a.bits := by
    rw [octets, hfamily]
    exact Numeral.drop_digits 256 12 4 a.bits
  have hgroups : a.groups.drop 6 = Numeral.digits 65536 2 a.bits := by
    rw [groups, hfamily]
    exact Numeral.drop_digits 65536 6 2 a.bits
  have hlt : ∀ n ∈ Numeral.digits 256 4 a.bits, n < 256 := fun n hn =>
    Numeral.lt_of_mem_digits (by decide) hn
  refine ⟨_, _, _, _, hoctets, hlt, ?_⟩
  rw [hgroups]
  simp only [Numeral.digits, List.nil_append, List.cons_append, List.cons.injEq, and_true]
  omega

theorem isEight_chars {a : Address} (hfamily : a.family = .v6) : IsEight a.chars a.groups := by
  unfold chars
  rw [hfamily]
  dsimp only
  split
  · next hmapped =>
    obtain ⟨b, c, d, e, hoctets, hlt, hgroups⟩ := exists_octets_eq hfamily
    rw [hoctets, ← List.take_append_drop 6 a.groups, hmapped, hgroups]
    exact isEight_mapped hlt
  · have hlength : a.groups.length = 8 := by
      rw [length_groups, hfamily]
      rfl
    exact isEight_compressed hlength fun g hg => Numeral.lt_of_mem_digits (by decide) hg

/-- The text of an address denotes it. -/
theorem denotes_chars (a : Address) : Denotes a.chars a := by
  cases hfamily : a.family with
  | v4 =>
    refine .v4 hfamily ?_
    have hlength : a.octets.length = 4 := by
      rw [length_octets, hfamily]
      rfl
    unfold chars
    rw [hfamily]
    exact isQuad_dottedQuad hlength fun n hn => Numeral.lt_of_mem_digits (by decide) hn
  | v6 => exact .v6 hfamily (isEight_chars hfamily)

/-- An address is read as it is written. -/
theorem read?_chars (a : Address) : read? a.chars = some a :=
  read?_eq_some_iff.mpr (denotes_chars a)

end Address

end SenderPolicy
