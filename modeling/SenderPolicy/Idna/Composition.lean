import SenderPolicy.Idna.Mapping
import SenderPolicy.Idna.Table.Combining
import SenderPolicy.Idna.Table.Decomposition

/-!
# Canonical composition

The same text can be spelt with precomposed letters or with letters and marks.  `compose` gives
the composed spelling: every character is decomposed, the marks of each cluster are put in the
order of their classes, and then each starter takes up the marks it can be composed with.

A mark is *blocked* from the starter when a mark that stayed behind has at least its class.  As
the marks are in order, it is enough to remember the class of the last one that stayed.

Hangul syllables are composed and decomposed by arithmetic.  For the rest, the table lists full
decompositions, so a starter and a mark compose to the character whose decomposition is the
starter's with the mark behind it.
-/

namespace SenderPolicy.Idna

/-! ## Hangul -/

namespace Hangul

/-- A syllable block as up to three letters. -/
def decompose? (c : Char) : Option (List Char) :=
  let n := c.toNat
  if 0xAC00 ≤ n ∧ n < 0xAC00 + 11172 then
    let index := n - 0xAC00
    let letters := [Char.ofNat (0x1100 + index / 588), Char.ofNat (0x1161 + index % 588 / 28)]
    if index % 28 = 0 then some letters
    else some (letters ++ [Char.ofNat (0x11A7 + index % 28)])
  else none

/-- The syllable block that a letter completes: a leading consonant with a vowel, or an open
syllable with a trailing consonant. -/
def compose? (first second : Char) : Option Char :=
  let m := first.toNat
  let n := second.toNat
  if 0x1100 ≤ m ∧ m < 0x1100 + 19 ∧ 0x1161 ≤ n ∧ n < 0x1161 + 21 then
    some (Char.ofNat (0xAC00 + (m - 0x1100) * 588 + (n - 0x1161) * 28))
  else if 0xAC00 ≤ m ∧ m < 0xAC00 + 11172 ∧ (m - 0xAC00) % 28 = 0 ∧ 0x11A7 < n ∧ n < 0x11A7 + 28
  then some (Char.ofNat (m + (n - 0x11A7)))
  else none

end Hangul

/-! ## Decomposition and order -/

/-- The canonical combining class. -/
def combiningClass (c : Char) : Nat :=
  if isAscii c then 0
  else
    match Table.combining.run? c with
    | some run => (Numeral.hexadecimal? run.value).getD 0
    | none => 0

/-- The full canonical decomposition of a character. -/
def decompose (c : Char) : List Char :=
  if isAscii c then [c]
  else
    match Hangul.decompose? c with
    | some letters => letters
    | none =>
      match Table.composed.run? c <|> Table.neverComposed.run? c with
      | some run => run.image c
      | none => [c]

/-- Put a character in front of a text whose marks are in order, moving it behind the marks of
a smaller class if it is a mark itself. -/
def insertMark (c : Char) : List Char → List Char
  | [] => [c]
  | d :: ds =>
    if combiningClass d ≠ 0 ∧ combiningClass d < combiningClass c then d :: insertMark c ds
    else c :: d :: ds

/-- The text with the marks of each cluster in the order of their classes. -/
def orderMarks (cs : List Char) : List Char := cs.foldr insertMark []

/-! ## Composition -/

/-- The value in the table of the character that decomposes to `cs`. -/
def decompositionValue (cs : List Char) : List Char :=
  ['.'].intercalate (cs.map fun c => Nat.toDigits 16 c.toNat)

/-- The character that a starter and a following character compose to. -/
def composePair? (starter c : Char) : Option Char :=
  match Hangul.compose? starter c with
  | some syllable => some syllable
  | none =>
    let value := decompositionValue (decompose starter ++ [c])
    (Table.composed.find? (·.value == value)).map fun run => Char.ofNat run.first

/-- Compose the text behind a starter.  `kept` holds the marks that stayed behind it, last one
first. -/
def composeAfter (starter : Char) (kept : List Char) : List Char → List Char
  | [] => starter :: kept.reverse
  | c :: cs =>
    let blocked := match kept with
      | [] => false
      | last :: _ => combiningClass c ≤ combiningClass last
    match if blocked then none else composePair? starter c with
    | some composite => composeAfter composite kept cs
    | none =>
      if combiningClass c = 0 then starter :: kept.reverse ++ composeAfter c [] cs
      else composeAfter starter (c :: kept) cs

/-- Compose a decomposed text: up to its first starter there is nothing to compose with. -/
def composeOrdered : List Char → List Char
  | [] => []
  | c :: cs => if combiningClass c = 0 then composeAfter c [] cs else c :: composeOrdered cs

/-- The composed spelling of a text.  ASCII is composed as it stands. -/
def compose (cs : List Char) : List Char :=
  if cs.all isAscii then cs else composeOrdered (orderMarks (cs.flatMap decompose))

theorem compose_of_isAscii {cs : List Char} (h : cs.all isAscii = true) : compose cs = cs := by
  rw [compose, if_pos h]

end SenderPolicy.Idna
