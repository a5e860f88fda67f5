/-!
# Where a byte string stops being UTF-8

`Utf8Fault.find?` reports the first fault of a byte string: its position, and either the number of
bytes to skip (the longest beginning of a character that was still valid, at least one byte) or
the fact that the bytes end inside a character that was valid so far.

A byte after the first is judged by `Utf8Fault.tail?`: the byte that follows the lead is confined to
a range that depends on the lead, which excludes overlong forms, surrogates and everything past
the last code point; later bytes only need to be continuation bytes.
-/

namespace SenderPolicy

/-- The first fault of a byte string that is not UTF-8. -/
inductive Utf8Fault where
  /-- `length` bytes from position `index` begin no character. -/
  | invalid (length index : Nat)
  /-- The bytes from position `index` begin a character that is cut off. -/
  | incomplete (index : Nat)
  deriving DecidableEq, Repr

namespace Utf8Fault

/-- The message shown to the user. -/
def message : Utf8Fault → String
  | .invalid length index =>
    "invalid utf-8 sequence of " ++ length.repr ++ " bytes from index " ++ index.repr
  | .incomplete index => "incomplete utf-8 byte sequence from index " ++ index.repr

/-- The ranges that the bytes after a lead byte have to lie in, or `none` if the byte leads
nothing. -/
def tail? (lead : Nat) : Option (List (Nat × Nat)) :=
  if lead < 0x80 then some []
  else if 0xC2 ≤ lead ∧ lead ≤ 0xDF then some [(0x80, 0xBF)]
  else if lead = 0xE0 then some [(0xA0, 0xBF), (0x80, 0xBF)]
  else if 0xE1 ≤ lead ∧ lead ≤ 0xEC then some [(0x80, 0xBF), (0x80, 0xBF)]
  else if lead = 0xED then some [(0x80, 0x9F), (0x80, 0xBF)]
  else if 0xEE ≤ lead ∧ lead ≤ 0xEF then some [(0x80, 0xBF), (0x80, 0xBF)]
  else if lead = 0xF0 then some [(0x90, 0xBF), (0x80, 0xBF), (0x80, 0xBF)]
  else if 0xF1 ≤ lead ∧ lead ≤ 0xF3 then some [(0x80, 0xBF), (0x80, 0xBF), (0x80, 0xBF)]
  else if lead = 0xF4 then some [(0x80, 0x8F), (0x80, 0xBF), (0x80, 0xBF)]
  else none

/-- The first fault, where the character being read started at `start`, `seen` of its bytes have
been read, and `expected` ranges are still open. -/
def scan (start seen : Nat) : (expected : List (Nat × Nat)) → List Nat → Option Utf8Fault
  | [], [] => none
  | [], lead :: bytes =>
    match tail? lead with
    | none => some (.invalid 1 (start + seen))
    | some expected => scan (start + seen) 1 expected bytes
  | _ :: _, [] => some (.incomplete start)
  | (low, high) :: expected, byte :: bytes =>
    if low ≤ byte ∧ byte ≤ high then scan start (seen + 1) expected bytes
    else some (.invalid seen start)

/-- The first fault of a byte string, if it has one. -/
def find? (bytes : List Nat) : Option Utf8Fault := scan 0 0 [] bytes

end Utf8Fault

end SenderPolicy
