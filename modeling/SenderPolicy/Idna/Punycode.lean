import SenderPolicy.Text.Numeral

/-!
# Writing Unicode with ASCII letters and digits

Punycode writes the ASCII characters of a label first, then a hyphen, and then says for each of
the other characters, in ascending order of code point, where it has to be inserted.  An insertion
is one number: how many *states* (pairs of a code point and a position) lie between it and the one
before.  The numbers are written in base 36 with a threshold for each digit, which adapts to the
sizes seen so far, so that no separator is needed.

`encode` is a fold over the distinct code points of the label, in order, and within each over the
label itself.  `decode?` is a fold over the digits.  Neither needs a bound on its steps; the digits
of one number end because each is taken off a number that gets smaller.

Reading is bounded as the format is defined, with numbers of 32 bits: a weight that does not
fit is a fault.  A position that does not fit could only belong to a code point past the
last one.
-/

namespace SenderPolicy.Idna.Punycode

/-! ## Digits and thresholds -/

/-- The character of a digit: `a` to `z`, then `0` to `9`. -/
def digitChar (d : Nat) : Char :=
  if d < 26 then Char.ofNat (0x61 + d) else Char.ofNat (0x30 + (d - 26))

/-- The value of a digit. -/
def digitValue? (c : Char) : Option Nat :=
  let n := c.toNat
  if 0x61 ≤ n ∧ n ≤ 0x7A then some (n - 0x61)
  else if 0x41 ≤ n ∧ n ≤ 0x5A then some (n - 0x41)
  else if 0x30 ≤ n ∧ n ≤ 0x39 then some (n - 0x30 + 26)
  else none

/-- The threshold of the digit at position `k` (a multiple of 36): a digit below it is the last
of its number. -/
def threshold (k bias : Nat) : Nat :=
  if k ≤ bias then 1 else if bias + 26 ≤ k then 26 else k - bias

theorem one_le_threshold (k bias : Nat) : 1 ≤ threshold k bias := by
  unfold threshold
  split
  · exact Nat.le_refl 1
  · split <;> omega

theorem threshold_le (k bias : Nat) : threshold k bias ≤ 26 := by
  unfold threshold
  split
  · omega
  · split <;> omega

/-- Divide a number by 35 until it is at most 455, counting 36 for each division. -/
def settle (k delta : Nat) : Nat :=
  if 455 < delta then settle (k + 36) (delta / 35) else k + 36 * delta / (delta + 38)
termination_by delta
decreasing_by omega

/-- The bias after an insertion of size `delta`, the first one or a later one, that made a label
of `length` characters. -/
def adapt (delta length : Nat) (isFirst : Bool) : Nat :=
  let scaled := if isFirst then delta / 700 else delta / 2
  settle 0 (scaled + scaled / length)

/-- The bias before the first insertion. -/
def initialBias : Nat := 72

/-! ## Writing -/

/-- The digits of a number, from position `k` on. -/
def number (bias k n : Nat) : List Char :=
  let t := threshold k bias
  if n < t then [digitChar n]
  else digitChar (t + (n - t) % (36 - t)) :: number bias (k + 36) ((n - t) / (36 - t))
termination_by n
decreasing_by
  have h := one_le_threshold k bias
  exact Nat.lt_of_le_of_lt (Nat.div_le_self ..) (by omega)

/-- A label that is being written. -/
structure Writer where
  /-- What has been written, last part first. -/
  parts : List (List Char)
  /-- The states passed over since the last insertion. -/
  delta : Nat
  bias : Nat
  /-- The number of characters that have been written. -/
  handled : Nat

/-- Pass over a character of the label, or insert it if it is the code point at hand. -/
def Writer.visit (basic codePoint : Nat) (w : Writer) (c : Char) : Writer :=
  if c.toNat < codePoint then { w with delta := w.delta + 1 }
  else if c.toNat = codePoint then
    { parts := number w.bias 36 w.delta :: w.parts
      delta := 0
      bias := adapt w.delta (w.handled + 1) (w.handled == basic)
      handled := w.handled + 1 }
  else w

/-- Insert the occurrences of the code points given, where those below `next` have been
inserted. -/
def Writer.insertAll (label : List Char) (basic : Nat) :
    (next : Nat) → List Nat → Writer → Writer
  | _, [], w => w
  | next, codePoint :: codePoints, w =>
    let start := { w with delta := w.delta + (codePoint - next) * (w.handled + 1) }
    let done := label.foldl (visit basic codePoint) start
    insertAll label basic (codePoint + 1) codePoints { done with delta := done.delta + 1 }

/-- The code points past ASCII in a label, ascending, each once. -/
def codePoints (label : List Char) : List Nat :=
  (((label.map Char.toNat).filter (0x80 ≤ ·)).mergeSort (· ≤ ·)).eraseReps

/-- A label in ASCII. -/
def encode (label : List Char) : List Char :=
  let basic := label.filter (·.toNat < 0x80)
  let w := Writer.insertAll label basic.length 0x80 (codePoints label)
    ⟨[], 0, initialBias, basic.length⟩
  (if basic = [] then [] else basic ++ ['-']) ++ w.parts.reverse.flatten

/-! ## Reading -/

/-- A label that is being read. -/
structure Reader where
  label : List Char
  /-- The code point that was inserted last. -/
  codePoint : Nat
  /-- The state that is being counted up. -/
  state : Nat
  /-- The state at the last insertion. -/
  anchor : Nat
  weight : Nat
  position : Nat
  bias : Nat

/-- Insert the character that the state stands for. -/
def Reader.insert? (r : Reader) : Option Reader :=
  let size := r.label.length + 1
  let codePoint := r.codePoint + r.state / size
  if codePoint.isValidChar then
    some
      { label := r.label.insertIdx (r.state % size) (Char.ofNat codePoint)
        codePoint := codePoint
        state := r.state % size + 1
        anchor := r.state % size + 1
        weight := 1
        position := 36
        bias := adapt (r.state - r.anchor) size (r.anchor == 0) }
  else none

/-- Take one digit. -/
def Reader.step? (r : Reader) (c : Char) : Option Reader := do
  let digit ← digitValue? c
  let t := threshold r.position r.bias
  let advanced := { r with state := r.state + digit * r.weight }
  if digit < t then advanced.insert?
  else
    let weight := r.weight * (36 - t)
    if weight < 2 ^ 32 then some { advanced with weight, position := r.position + 36 } else none

/-- Where the last hyphen stands: the characters before it and those behind it. -/
def cutAtLastHyphen (cs : List Char) : List Char × List Char :=
  match (cs.reverse.dropWhile (· != '-')).reverse with
  | [] => ([], cs)
  | ['-'] => ([], cs)
  | front => (front.dropLast, cs.drop front.length)

/-- The label that an ASCII text stands for. -/
def decode? (cs : List Char) : Option (List Char) := do
  let (basic, digits) := cutAtLastHyphen cs
  let r ← digits.foldlM Reader.step? ⟨basic, 0x80, 0, 0, 1, 36, initialBias⟩
  if r.position = 36 then some r.label else none

end SenderPolicy.Idna.Punycode
