import SenderPolicy.Net.Address.Basic

/-!
# Writing addresses

IPv4 is four decimal octets.  IPv6 is eight hexadecimal groups, with the longest run of two or
more zero groups written `::` (the first such run, if two are equally long); an IPv4-mapped
address shows its last four octets in decimal.

The *labels* of an address are what a reverse name is built from: the four octets, or the
thirty-two half bytes.
-/

namespace SenderPolicy.Address

/-- The octets of a number in decimal, with dots between them. -/
def dottedQuad (octets : List Nat) : List Char :=
  ['.'].intercalate (octets.map (Nat.toDigits 10))

/-- Groups in hexadecimal, with colons between them. -/
def colonGroups (groups : List Nat) : List Char :=
  [':'].intercalate (groups.map (Nat.toDigits 16))

/-- The number of zeros at the start. -/
def leadingZeros (groups : List Nat) : Nat :=
  (groups.takeWhile (· == 0)).length

/-- Where the longest run of zeros starts and how long it is; of equally long runs, the first. -/
def longestZeros : List Nat → Nat × Nat
  | [] => (0, 0)
  | g :: gs =>
    let (start, length) := longestZeros gs
    let here := leadingZeros (g :: gs)
    if length ≤ here then (0, here) else (start + 1, length)

/-- Eight groups, with the longest run of two or more zeros left out. -/
def compressed (groups : List Nat) : List Char :=
  let (start, length) := longestZeros groups
  if length < 2 then colonGroups groups
  else colonGroups (groups.take start) ++ [':', ':'] ++ colonGroups (groups.drop (start + length))

/-- The text of an address. -/
def chars (a : Address) : List Char :=
  match a.family with
  | .v4 => dottedQuad a.octets
  | .v6 =>
    if a.groups.take 6 = [0, 0, 0, 0, 0, 0xffff] then
      "::ffff:".toList ++ dottedQuad (a.octets.drop 12)
    else compressed a.groups

/-- The text of an address. -/
def text (a : Address) : String := String.ofList a.chars

/-- The labels of an address, most significant first: decimal octets, or hexadecimal half
bytes. -/
def labels (a : Address) : List (List Char) :=
  match a.family with
  | .v4 => a.octets.map (Nat.toDigits 10)
  | .v6 => a.nibbles.map (Nat.toDigits 16)

/-- The labels with dots between them. -/
def dotted (a : Address) : String :=
  String.ofList (['.'].intercalate a.labels)

/-- The labels from the last to the first, with dots between them. -/
def reverseDotted (a : Address) : String :=
  String.ofList (['.'].intercalate a.labels.reverse)

theorem length_labels (a : Address) :
    a.labels.length = match a.family with | .v4 => 4 | .v6 => 32 := by
  rw [labels]
  cases hf : a.family <;> simp [hf, Family.width]

/-- A run of leading zeros lies within the list. -/
theorem leadingZeros_le (groups : List Nat) : leadingZeros groups ≤ groups.length :=
  (List.takeWhile_sublist _).length_le

/-- The run that `longestZeros` finds lies within the list. -/
theorem longestZeros_le (groups : List Nat) :
    (longestZeros groups).1 + (longestZeros groups).2 ≤ groups.length := by
  induction groups with
  | nil => simp [longestZeros]
  | cons g gs ih =>
    have h := leadingZeros_le (g :: gs)
    simp only [longestZeros]
    split <;> simp only [List.length_cons] at * <;> omega

/-- The run that `longestZeros` finds holds zeros only. -/
theorem eq_zero_of_mem_longestZeros {groups : List Nat} {g : Nat}
    (h : g ∈ (groups.drop (longestZeros groups).1).take (longestZeros groups).2) : g = 0 := by
  induction groups with
  | nil => simp [longestZeros] at h
  | cons head gs ih =>
    simp only [longestZeros] at h
    split at h
    · simp only [List.drop_zero, leadingZeros] at h
      rw [← List.prefix_iff_eq_take.mp (List.takeWhile_prefix _)] at h
      have hall : ((head :: gs).takeWhile (· == 0)).all (· == 0) = true := List.all_takeWhile
      simpa using List.all_eq_true.mp hall g h
    · exact ih (by simpa using h)

end SenderPolicy.Address
