import Mathlib.Data.List.Induction
import Mathlib.Data.Nat.Digits.Defs
import SenderPolicy.Proofs.Text.Fields
import SenderPolicy.Text.Numeral

/-!
# Numerals are read as they are written

Numbers are written by `Nat.toDigits`: no leading zero, and hexadecimal digits in lower case.  The
readers of `Text.Numeral` admit more spellings than that, and here each of them is shown to take
back what is written.

* `decimal?_toDigits`, `hexadecimal?_toDigits`: the two readers undo the two bases.
* `head?_toDigits_ne`: a number that is not zero is not written with a zero in front.
* `decimal?_eq_some_iff`, `count?_eq_some_iff`, `hexadecimal?_eq_some_iff`: what else they admit is
  the grammar of `IsDecimal`, `IsCount` and `IsHexadecimal`, and nothing beyond it.
* `digits_value`, `getElem?_digits`: a fixed number of digits, and the number that they make.

What is said of written numbers is an induction along `Nat.toDigits_of_base_le`, which splits the
last digit off.
-/

namespace SenderPolicy.Numeral

/-! ## Digits -/

theorem hexDigit?_digitChar {d : Nat} (h : d < 16) : hexDigit? (Nat.digitChar d) = some d := by
  have hall : ∀ d < 16, hexDigit? (Nat.digitChar d) = some d := by decide
  exact hall d h

/-- What holds of the digits is what holds of the last one and of the number without it. -/
theorem toDigits_induction {base : Nat} (hb : 1 < base) {motive : Nat → List Char → Prop}
    (single : ∀ n < base, motive n [Nat.digitChar n])
    (append : ∀ n, base ≤ n → motive (n / base) (Nat.toDigits base (n / base)) →
      motive n (Nat.toDigits base (n / base) ++ [Nat.digitChar (n % base)])) (n : Nat) :
    motive n (Nat.toDigits base n) := by
  induction n using Nat.strong_induction_on with
  | _ n ih =>
    by_cases hn : n < base
    · rw [Nat.toDigits_of_lt_base hn]
      exact single n hn
    · have hle : base ≤ n := Nat.le_of_not_lt hn
      rw [Nat.toDigits_of_base_le hb hle]
      exact append n hle (ih _ (Nat.div_lt_self (by omega) hb))

/-- Only zero is written with a zero in front. -/
theorem head?_toDigits_ne {base n : Nat} (hb : 1 < base) (hn : n ≠ 0) :
    (Nat.toDigits base n).head? ≠ some '0' := by
  refine toDigits_induction hb (motive := fun n ds => n ≠ 0 → ds.head? ≠ some '0') ?_ ?_ n hn
  · intro n _ hn
    simpa using hn
  · intro n hle ih _
    have hdiv : n / base ≠ 0 := by
      have := Nat.div_pos hle (by omega)
      omega
    obtain ⟨c, cs, hcs⟩ := List.exists_cons_of_ne_nil (Nat.toDigits_ne_nil (n := n / base))
    rw [hcs] at ih ⊢
    exact ih hdiv

/-! ## Readers -/

theorem all_isDigit_toDigits (n : Nat) : (Nat.toDigits 10 n).all Char.isDigit = true :=
  List.all_eq_true.mpr fun _ hc => Nat.isDigit_of_mem_toDigits (by decide) (by decide) hc

theorem decimal?_toDigits (n : Nat) : decimal? (Nat.toDigits 10 n) = some n := by
  rw [decimal?, if_pos ⟨Nat.toDigits_ne_nil, all_isDigit_toDigits n⟩,
    Nat.ofDigitChars_ten_toDigits]

theorem hexadecimal?_toDigits (n : Nat) : hexadecimal? (Nat.toDigits 16 n) = some n := by
  have hdigits : ∃ ds, (Nat.toDigits 16 n).mapM hexDigit? = some ds ∧ value 16 ds = n := by
    refine toDigits_induction (by decide)
      (motive := fun n cs => ∃ ds, cs.mapM hexDigit? = some ds ∧ value 16 ds = n) ?_ ?_ n
    · intro n hn
      exact ⟨[n], by simp [hexDigit?_digitChar hn], by simp [value]⟩
    · rintro n - ⟨ds, hds, hvalue⟩
      have hlast : hexDigit? (Nat.digitChar (n % 16)) = some (n % 16) :=
        hexDigit?_digitChar (Nat.mod_lt n (by decide))
      refine ⟨ds ++ [n % 16], by simp [hds, hlast], ?_⟩
      rw [value_append_singleton, hvalue]
      omega
  obtain ⟨ds, hds, hvalue⟩ := hdigits
  rw [hexadecimal?, if_neg Nat.toDigits_ne_nil, hds, Option.map_some, hvalue]

/-! ## Positional notation -/

/-- The last digits of a number are those of its remainder. -/
theorem drop_digits (base count k n : Nat) :
    (digits base (count + k) n).drop count = digits base k n := by
  induction k generalizing n with
  | zero =>
    rw [Nat.add_zero, List.drop_eq_nil_of_le (Nat.le_of_eq (length_digits ..))]
    rfl
  | succ k ih =>
    have hlength : count ≤ (digits base (count + k) (n / base)).length := by
      rw [length_digits]
      exact Nat.le_add_right count k
    rw [← Nat.add_assoc, digits, List.drop_append_of_le_length hlength, ih]
    rfl

/-- The digit at a place. -/
theorem getElem?_digits {base count i : Nat} (n : Nat) (h : i < count) :
    (digits base count n)[i]? = some (n / base ^ (count - 1 - i) % base) := by
  induction count generalizing n with
  | zero => exact absurd h (Nat.not_lt_zero i)
  | succ count ih =>
    rw [digits]
    by_cases hi : i < count
    · have hplace : count + 1 - 1 - i = count - 1 - i + 1 := by omega
      rw [List.getElem?_append_left (by rwa [length_digits]), ih _ hi, hplace, Nat.pow_succ',
        Nat.div_div_eq_div_mul]
    · obtain rfl : i = count := by omega
      simp

/-- Digits are those of the number that they make. -/
theorem digits_value {base : Nat} {ds : List Nat} (h : ∀ d ∈ ds, d < base) :
    digits base ds.length (value base ds) = ds := by
  induction ds using List.reverseRecOn with
  | nil => rfl
  | append_singleton ds d ih =>
    obtain ⟨hds, hd⟩ := List.forall_mem_append.mp h
    have hlt : d < base := hd d (List.mem_singleton_self d)
    have hbase : 0 < base := Nat.zero_lt_of_lt hlt
    rw [value_append_singleton, List.length_append, List.length_singleton, digits,
      Nat.add_comm, Nat.add_mul_div_right _ _ hbase, Nat.div_eq_of_lt hlt, Nat.zero_add, ih hds,
      Nat.add_mul_mod_self_right, Nat.mod_eq_of_lt hlt]

/-! ## Grammar -/

/-- The letters are a numeral in base ten, leading zeros allowed. -/
structure IsDecimal (letters : List Char) (n : Nat) : Prop where
  ne_nil : letters ≠ []
  isDigit : ∀ c ∈ letters, c.isDigit = true
  value_eq : value 10 (letters.map fun c => c.toNat - '0'.toNat) = n

/-- The letters are such a numeral of value at most `bound`, and there may be a `+` in front. -/
inductive IsCount (bound : Nat) : List Char → Nat → Prop where
  | bare {letters : List Char} {n : Nat} (h : IsDecimal letters n) (hbound : n ≤ bound) :
      IsCount bound letters n
  | signed {letters : List Char} {n : Nat} (h : IsDecimal letters n) (hbound : n ≤ bound) :
      IsCount bound ('+' :: letters) n

/-- The letters are a numeral in base sixteen, its digits of either case. -/
structure IsHexadecimal (letters : List Char) (n : Nat) : Prop where
  ne_nil : letters ≠ []
  exists_digits : ∃ ds, List.Forall₂ (fun c d => hexDigit? c = some d) letters ds ∧
    value 16 ds = n

theorem ofDigitChars_ten (letters : List Char) :
    Nat.ofDigitChars 10 letters 0 = value 10 (letters.map fun c => c.toNat - '0'.toNat) := by
  rw [Nat.ofDigitChars, value, List.foldl_map]
  simp only [Nat.mul_comm 10]

theorem decimal?_eq_some_iff {letters : List Char} {n : Nat} :
    decimal? letters = some n ↔ IsDecimal letters n := by
  rw [decimal?, ofDigitChars_ten]
  constructor
  · intro h
    split at h
    · next hdigits =>
      exact ⟨hdigits.1, List.all_eq_true.mp hdigits.2, Option.some.inj h⟩
    · cases h
  · intro h
    rw [if_pos ⟨h.ne_nil, List.all_eq_true.mpr h.isDigit⟩, h.value_eq]

theorem IsDecimal.not_mem {letters : List Char} {n : Nat} (h : IsDecimal letters n) {c : Char}
    (hc : c.isDigit = false) : c ∉ letters := by
  intro hmem
  rw [h.isDigit c hmem] at hc
  cases hc

theorem count?_eq_some_iff {bound : Nat} {letters : List Char} {n : Nat} :
    count? bound letters = some n ↔ IsCount bound letters n := by
  have hfilter : ∀ {letters : List Char}, (decimal? letters).filter (· ≤ bound) = some n ↔
      IsDecimal letters n ∧ n ≤ bound := by
    intro letters
    rw [Option.filter_eq_some_iff, decimal?_eq_some_iff, decide_eq_true_iff]
  constructor
  · intro h
    unfold count? at h
    split at h
    · obtain ⟨hdecimal, hbound⟩ := hfilter.mp h
      exact .signed hdecimal hbound
    · obtain ⟨hdecimal, hbound⟩ := hfilter.mp h
      exact .bare hdecimal hbound
  · intro h
    cases h with
    | bare h hbound =>
      unfold count?
      split
      · exact absurd (List.mem_cons_self ..) (h.not_mem (c := '+') (by decide))
      · exact hfilter.mpr ⟨h, hbound⟩
    | signed h hbound => exact hfilter.mpr ⟨h, hbound⟩

theorem hexadecimal?_eq_some_iff {letters : List Char} {n : Nat} :
    hexadecimal? letters = some n ↔ IsHexadecimal letters n := by
  by_cases hnil : letters = []
  · rw [hexadecimal?, if_pos hnil]
    exact ⟨nofun, fun h => absurd hnil h.ne_nil⟩
  · rw [hexadecimal?, if_neg hnil, Option.map_eq_some_iff]
    simp only [mapM_eq_some_iff]
    exact ⟨fun h => ⟨hnil, h⟩, fun h => h.exists_digits⟩

theorem hexDigit?_lt {c : Char} {d : Nat} (h : hexDigit? c = some d) : d < 16 := by
  unfold hexDigit? at h
  dsimp only at h
  split at h
  · obtain rfl := Option.some.inj h
    omega
  · split at h
    · obtain rfl := Option.some.inj h
      omega
    · split at h
      · obtain rfl := Option.some.inj h
        omega
      · cases h

theorem IsHexadecimal.lt {letters : List Char} {n : Nat} (h : IsHexadecimal letters n) :
    n < 16 ^ letters.length := by
  obtain ⟨ds, hds, rfl⟩ := h.exists_digits
  rw [hds.length_eq]
  exact value_lt (forall_right_of_forall₂ (fun c d hd => hexDigit?_lt hd) hds)

theorem IsHexadecimal.not_mem {letters : List Char} {n : Nat} (h : IsHexadecimal letters n)
    {c : Char} (hc : hexDigit? c = none) : c ∉ letters := by
  obtain ⟨ds, hds, -⟩ := h.exists_digits
  intro hmem
  refine forall_of_forall₂ (p := fun c => hexDigit? c ≠ none) ?_ hds c hmem hc
  intro c d hd hnone
  rw [hd] at hnone
  cases hnone

end SenderPolicy.Numeral
