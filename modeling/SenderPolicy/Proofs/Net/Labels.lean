import SenderPolicy.Proofs.Net.Word
import SenderPolicy.Proofs.Net.Written

/-!
# Labels of addresses

The two dotted forms of an address are rows of labels, and what is asked of them is asked of the
text: what stands between its dots, how many labels there are and what they look like, and that the
address can be told from them.

* `Address.labelsOf_dotted`, `Address.labelsOf_reverseDotted`: no label holds a dot, so the labels
  are what stands between the dots.
* `Address.valueOf?_labels`: read as digits, they give the bits of the address.
* `Word.nibbles_toBits`: in machine words the half bytes of an IPv6 address are shifted down and cut
  off, and they are the same.
* `Address.labelled_and_injective` puts this together.  The number of labels tells the family, and
  the digits tell the rest.
-/

namespace SenderPolicy

/-! ## Half bytes of a word -/

namespace Word

/-- The half bytes of a word, most significant first: each of them is shifted down, and what stands
above it is cut off. -/
def nibbles (x : BitVec 128) : List (BitVec 8) :=
  (List.range 32).map fun i => ((x >>> (124 - i * 4)) &&& 0xf).setWidth 8

theorem toNat_nibble (x : BitVec 128) (shift : Nat) :
    (((x >>> shift) &&& 0xf).setWidth 8).toNat = x.toNat / 2 ^ shift % 16 := by
  have hmask : (0xf : BitVec 128).toNat = 2 ^ 4 - 1 := rfl
  rw [BitVec.toNat_setWidth, BitVec.toNat_and, hmask, Nat.and_two_pow_sub_one_eq_mod,
    BitVec.toNat_ushiftRight, Nat.shiftRight_eq_div_pow]
  omega

theorem nibbles_toBits {a : Address} (hfamily : a.family = .v6) :
    (nibbles (toBits a)).map BitVec.toNat = a.nibbles := by
  have hcount : a.family.width / 4 = 32 := by
    rw [hfamily]
    rfl
  refine List.ext_getElem? fun i => ?_
  by_cases hi : i < 32
  · have hplace : 2 ^ (124 - i * 4) = 16 ^ (32 - 1 - i) := by
      have hshift : 124 - i * 4 = 4 * (32 - 1 - i) := by omega
      rw [hshift, Nat.pow_mul]
    rw [Address.nibbles, hcount, Numeral.getElem?_digits _ hi, ← hplace, nibbles, List.map_map,
      List.getElem?_map, List.getElem?_range hi, Option.map_some]
    refine congrArg some ?_
    rw [Function.comp_apply, toNat_nibble, toNat_toBits]
  · have hlength : a.nibbles.length = 32 := by rw [Address.length_nibbles, hcount]
    rw [List.getElem?_eq_none (by simpa [nibbles] using hi),
      List.getElem?_eq_none (by omega)]

end Word

namespace Address

/-! ## Labels of a text -/

/-- What stands between the dots of a text. -/
def labelsOf (text : String) : List (List Char) := text.toList.splitOn '.'

/-- The number of which the labels are the digits, most significant first. -/
def valueOf? (family : Family) (labels : List (List Char)) : Option Nat :=
  match family with
  | .v4 => (labels.mapM Numeral.decimal?).map (Numeral.value 256)
  | .v6 => (labels.mapM Numeral.hexadecimal?).map (Numeral.value 16)

variable (a : Address)

theorem labels_ne_nil : a.labels ≠ [] := by
  intro hnil
  have hlength := a.length_labels
  rw [hnil] at hlength
  cases hfamily : a.family <;> simp [hfamily] at hlength

/-- No label holds a dot. -/
theorem dot_not_mem_labels : ∀ label ∈ a.labels, '.' ∉ label := by
  unfold labels
  split <;> rw [List.forall_mem_map] <;> intro n _
  · exact (Numeral.decimal?_eq_some_iff.mp (Numeral.decimal?_toDigits n)).not_mem (by decide)
  · exact (Numeral.hexadecimal?_eq_some_iff.mp (Numeral.hexadecimal?_toDigits n)).not_mem
      (by decide)

theorem labelsOf_dotted : labelsOf a.dotted = a.labels := by
  rw [labelsOf, dotted, String.toList_ofList,
    List.splitOn_intercalate '.' a.dot_not_mem_labels a.labels_ne_nil]

theorem labelsOf_reverseDotted : labelsOf a.reverseDotted = a.labels.reverse := by
  have hdots : ∀ label ∈ a.labels.reverse, '.' ∉ label := fun label hlabel =>
    a.dot_not_mem_labels label (List.mem_reverse.mp hlabel)
  have hne : a.labels.reverse ≠ [] := fun hnil => a.labels_ne_nil (List.reverse_eq_nil_iff.mp hnil)
  rw [labelsOf, reverseDotted, String.toList_ofList, List.splitOn_intercalate '.' hdots hne]

/-- The digits of an address are read from its labels. -/
theorem valueOf?_labels : valueOf? a.family a.labels = some a.bits := by
  unfold valueOf? labels
  cases a.family with
  | v4 =>
    have hread : (a.octets.map (Nat.toDigits 10)).mapM Numeral.decimal? = some a.octets :=
      mapM_eq_some_iff.mpr (forall₂_map fun n _ => Numeral.decimal?_toDigits n)
    dsimp only
    rw [hread, Option.map_some, value_octets]
  | v6 =>
    have hread : (a.nibbles.map (Nat.toDigits 16)).mapM Numeral.hexadecimal? = some a.nibbles :=
      mapM_eq_some_iff.mpr (forall₂_map fun n _ => Numeral.hexadecimal?_toDigits n)
    dsimp only
    rw [hread, Option.map_some, value_nibbles]

/-- The labels tell the address: their number the family, and their digits the rest. -/
theorem eq_of_labels_eq {a b : Address} (h : a.labels = b.labels) : a = b := by
  have hfamily : a.family = b.family := by
    have hcount : a.labels.length = b.labels.length := congrArg List.length h
    rw [length_labels, length_labels] at hcount
    cases ha : a.family <;> cases hb : b.family <;> simp [ha, hb] at hcount ⊢
  have hbits := valueOf?_labels a
  rw [h, hfamily, valueOf?_labels] at hbits
  exact Address.ext hfamily (Option.some.inj hbits).symm

/-! ## The two forms -/

/-- What the dotted forms of an address are. -/
structure Labelled (a : Address) : Prop where
  /-- One is the other from the last label to the first. -/
  reversed : labelsOf a.reverseDotted = (labelsOf a.dotted).reverse
  /-- The number of labels is that of the octets or that of the half bytes. -/
  length_eq : (labelsOf a.dotted).length = match a.family with | .v4 => 4 | .v6 => 32
  /-- The labels of an IPv4 address are decimal numerals of its octets. -/
  decimal : a.family = .v4 → List.Forall₂ IsOctet (labelsOf a.dotted) a.octets
  /-- The labels of an IPv6 address are single digits in lower case. -/
  hexadecimal : a.family = .v6 →
    ∀ label ∈ labelsOf a.dotted, ∃ c ∈ "0123456789abcdef".toList, label = [c]
  /-- They are the digits of the half bytes that a machine takes from the word. -/
  in_words : a.family = .v6 → labelsOf a.dotted =
    ((Word.nibbles (Word.toBits a)).map BitVec.toNat).map (Nat.toDigits 16)
  /-- As digits they give the number that the address is. -/
  valueOf?_eq : valueOf? a.family (labelsOf a.dotted) = some a.bits

theorem toDigits_sixteen_of_lt {d : Nat} (h : d < 16) :
    ∃ c ∈ "0123456789abcdef".toList, Nat.toDigits 16 d = [c] := by
  have hall : ∀ d < 16, Nat.digitChar d ∈ "0123456789abcdef".toList := by decide
  exact ⟨_, hall d h, Nat.toDigits_of_lt_base h⟩

theorem labelled : a.Labelled where
  reversed := by rw [labelsOf_reverseDotted, labelsOf_dotted]
  length_eq := by
    rw [labelsOf_dotted]
    exact a.length_labels
  decimal hfamily := by
    rw [labelsOf_dotted, labels, hfamily]
    exact forall₂_map fun n hn => isOctet_toDigits (Numeral.lt_of_mem_digits (by decide) hn)
  hexadecimal hfamily := by
    rw [labelsOf_dotted, labels, hfamily]
    dsimp only
    rw [List.forall_mem_map]
    exact fun d hd => toDigits_sixteen_of_lt (Numeral.lt_of_mem_digits (by decide) hd)
  in_words hfamily := by
    rw [labelsOf_dotted, labels, Word.nibbles_toBits hfamily, hfamily]
  valueOf?_eq := by rw [labelsOf_dotted, valueOf?_labels]

/-- The dotted forms are the same labels in the two orders, and each of them tells the address. -/
theorem labelled_and_injective :
    (∀ a : Address, a.Labelled) ∧ Function.Injective dotted ∧ Function.Injective reverseDotted := by
  refine ⟨labelled, fun a b h => eq_of_labels_eq ?_, fun a b h => eq_of_labels_eq ?_⟩
  · rw [← labelsOf_dotted a, h, labelsOf_dotted]
  · have hreverse : a.labels.reverse = b.labels.reverse := by
      rw [← labelsOf_reverseDotted a, h, labelsOf_reverseDotted]
    exact List.reverse_injective hreverse

end Address

end SenderPolicy
