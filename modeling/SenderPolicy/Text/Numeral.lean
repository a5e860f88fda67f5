/-!
# Numerals and positional notation

Three readers of unsigned numbers, each with the spellings it admits:

* `decimal?`: one or more ASCII digits, leading zeros allowed;
* `count?`: the same with an optional `+` in front, and a largest value;
* `hexadecimal?`: one or more hexadecimal digits of either case.

Numbers are written by `Nat.toDigits`, without leading zeros and in lower case.

`digits` and `value` are notation of a fixed length: an address is four digits in base 256, eight
in base 65536 or thirty-two in base 16, and `value_digits` says that none of these loses
anything.
-/

namespace SenderPolicy.Numeral

/-- Powers of numbers are those of the core library, whatever else is imported. -/
@[default_instance 20000]
instance (priority := high) powNat : Pow Nat Nat := instPowNat

/-- One or more ASCII digits, read in base ten. -/
def decimal? (cs : List Char) : Option Nat :=
  if cs ≠ [] ∧ cs.all Char.isDigit then some (Nat.ofDigitChars 10 cs 0) else none

/-- A decimal numeral of value at most `bound`, with an optional `+` in front. -/
def count? (bound : Nat) : List Char → Option Nat
  | '+' :: cs => (decimal? cs).filter (· ≤ bound)
  | cs => (decimal? cs).filter (· ≤ bound)

/-- The value of a hexadecimal digit of either case. -/
def hexDigit? (c : Char) : Option Nat :=
  let n := c.toNat
  if 0x30 ≤ n ∧ n ≤ 0x39 then some (n - 0x30)
  else if 0x41 ≤ n ∧ n ≤ 0x46 then some (n - 0x41 + 10)
  else if 0x61 ≤ n ∧ n ≤ 0x66 then some (n - 0x61 + 10)
  else none

/-- The number whose base `base` digits, most significant first, are given. -/
def value (base : Nat) (ds : List Nat) : Nat :=
  ds.foldl (fun n d => n * base + d) 0

/-- One or more hexadecimal digits. -/
def hexadecimal? (cs : List Char) : Option Nat :=
  if cs = [] then none else (cs.mapM hexDigit?).map (value 16)

/-- The last `count` digits of `n` in base `base`, most significant first. -/
def digits (base : Nat) : (count : Nat) → (n : Nat) → List Nat
  | 0, _ => []
  | count + 1, n => digits base count (n / base) ++ [n % base]

@[simp] theorem length_digits (base count n : Nat) : (digits base count n).length = count := by
  induction count generalizing n with
  | zero => rfl
  | succ count ih => simp [digits, ih]

@[simp] theorem value_nil (base : Nat) : value base [] = 0 := rfl

@[simp] theorem value_append_singleton (base : Nat) (ds : List Nat) (d : Nat) :
    value base (ds ++ [d]) = value base ds * base + d := by
  simp [value]

theorem lt_of_mem_digits {base count n d : Nat} (hb : 0 < base) (h : d ∈ digits base count n) :
    d < base := by
  induction count generalizing n with
  | zero => simp [digits] at h
  | succ count ih =>
    rcases List.mem_append.mp h with h | h
    · exact ih h
    · rw [List.mem_singleton.mp h]
      exact Nat.mod_lt n hb

/-- Enough digits determine the number. -/
theorem value_digits {base count n : Nat} (h : n < base ^ count) :
    value base (digits base count n) = n := by
  induction count generalizing n with
  | zero => simp at h; simp [digits, h]
  | succ count ih =>
    have hdiv : n / base < base ^ count := by
      rw [Nat.pow_succ] at h
      exact Nat.div_lt_of_lt_mul (by rwa [Nat.mul_comm])
    rw [digits, value_append_singleton, ih hdiv, Nat.mul_comm]
    exact Nat.div_add_mod n base

theorem foldl_eq_value (base start : Nat) (ds : List Nat) :
    ds.foldl (fun n d => n * base + d) start = start * base ^ ds.length + value base ds := by
  induction ds generalizing start with
  | nil => simp [value]
  | cons d ds ih =>
    rw [value, List.foldl_cons, List.foldl_cons, ih, ih (0 * base + d), List.length_cons,
      Nat.pow_succ', Nat.add_mul, Nat.mul_assoc, Nat.zero_mul, Nat.zero_add, Nat.add_assoc]

theorem value_cons (base d : Nat) (ds : List Nat) :
    value base (d :: ds) = d * base ^ ds.length + value base ds := by
  rw [value, List.foldl_cons, foldl_eq_value, Nat.zero_mul, Nat.zero_add]

theorem value_lt {base : Nat} {ds : List Nat} (h : ∀ d ∈ ds, d < base) :
    value base ds < base ^ ds.length := by
  induction ds with
  | nil => simp
  | cons d ds ih =>
    have hd : d < base := h d (by simp)
    have hrest := ih fun e he => h e (by simp [he])
    rw [value_cons, List.length_cons, Nat.pow_succ]
    calc d * base ^ ds.length + value base ds
        < d * base ^ ds.length + base ^ ds.length := by omega
      _ = (d + 1) * base ^ ds.length := by rw [Nat.add_mul, Nat.one_mul]
      _ ≤ base * base ^ ds.length := Nat.mul_le_mul_right _ hd
      _ = base ^ ds.length * base := Nat.mul_comm _ _

end SenderPolicy.Numeral
