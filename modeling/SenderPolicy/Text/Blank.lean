/-!
# White space and trimming

A character is *blank* when Unicode gives it the property `White_Space`.  The set is closed: it
has twenty-five members, and neither the zero width space nor the byte order mark is one of them.
Every place that forgives stray space around a name or an address forgives exactly this set, so
it is stated once, here.

Trimming is stated on lists of characters, where it is two `dropWhile`s; `trim` carries it to
strings.
-/

namespace SenderPolicy.Text

/-- The Unicode property `White_Space`. -/
def isBlank (c : Char) : Bool :=
  let n := c.toNat
  (0x9 ≤ n && n ≤ 0xD) || n == 0x20 || n == 0x85 || n == 0xA0 || n == 0x1680 ||
    (0x2000 ≤ n && n ≤ 0x200A) || n == 0x2028 || n == 0x2029 || n == 0x202F || n == 0x205F ||
    n == 0x3000

/-- The list without its longest ending of `p`s. -/
def dropTrailing (p : Char → Bool) (cs : List Char) : List Char :=
  (cs.reverse.dropWhile p).reverse

/-- The list without the blanks at either end. -/
def trimBlanks (cs : List Char) : List Char :=
  dropTrailing isBlank (cs.dropWhile isBlank)

/-- The string without the blanks at either end. -/
def trim (s : String) : String :=
  String.ofList (trimBlanks s.toList)

/-- The list without the dots that end it: a name with its root label left out. -/
def dropRootDots (cs : List Char) : List Char :=
  dropTrailing (· == '.') cs

/-- What `dropTrailing` leaves does not end in a `p`. -/
theorem getLast?_dropTrailing {p : Char → Bool} {cs : List Char} {c : Char}
    (h : (dropTrailing p cs).getLast? = some c) : p c = false := by
  rw [dropTrailing, List.getLast?_reverse] at h
  have := List.head?_dropWhile_not p cs.reverse
  rw [h] at this
  simpa using this

/-- A list that does not end in a `p` is left alone. -/
theorem dropTrailing_eq_self {p : Char → Bool} {cs : List Char}
    (h : ∀ c, cs.getLast? = some c → p c = false) : dropTrailing p cs = cs := by
  rw [dropTrailing]
  rcases hr : cs.reverse with _ | ⟨c, rest⟩
  · rw [List.dropWhile_nil, List.reverse_nil]
    exact (List.reverse_eq_nil_iff.mp hr).symm
  · have hc : p c = false := by
      apply h
      rw [← List.head?_reverse, hr, List.head?_cons]
    rw [List.dropWhile_cons_of_neg (by simp [hc]), ← hr, List.reverse_reverse]

end SenderPolicy.Text
