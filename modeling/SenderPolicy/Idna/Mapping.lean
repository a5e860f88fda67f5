import SenderPolicy.Idna.Table.Mapping

/-!
# Mapping the characters of a name

The first step with an internationalised name: every character is kept, replaced, dropped or
refused.  ASCII needs no table: capital letters become small ones, and everything else, spaces and
control characters included, is kept.  Whether a name *should* hold such a character is not asked
here.

`ß`, `ς` and the two joiners are kept as they are.
-/

namespace SenderPolicy.Idna

/-- Whether a character is ASCII. -/
def isAscii (c : Char) : Bool := c.toNat < 0x80

/-- What becomes of a character; `none` if no name may hold it. -/
def mapChar? (c : Char) : Option (List Char) :=
  if isAscii c then some [c.toLower]
  else if Table.refused.contains c then none
  else if Table.dropped.contains c then some []
  else
    match Table.replaced.run? c with
    | some run => some (run.image c)
    | none => some [c]

/-- What becomes of a text. -/
def mapChars? (cs : List Char) : Option (List Char) :=
  (cs.mapM mapChar?).map List.flatten

theorem mapChar?_of_isAscii {c : Char} (h : isAscii c = true) : mapChar? c = some [c.toLower] := by
  rw [mapChar?, if_pos h]

/-- A character that joins its two neighbours only where the script asks for it. -/
def zeroWidthNonJoiner : Char := Char.ofNat 0x200C

/-- A character that joins its two neighbours where the script would not. -/
def zeroWidthJoiner : Char := Char.ofNat 0x200D

end SenderPolicy.Idna
