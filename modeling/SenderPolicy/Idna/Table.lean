import SenderPolicy.Text.Cut
import SenderPolicy.Text.Numeral

/-!
# Character tables

The properties of characters are kept as text, one string for each table, because a property of
a hundred thousand characters is a few hundred runs of neighbours.  A table is a row of entries
with spaces and line breaks between them, and an entry is

    first-last/stride=value

in hexadecimal.  `last` may be left out for a single character, `/stride` for a stride of one, and
`=value` where membership is all there is to say.  A run with a stride holds `first`,
`first + stride` and so on up to `last`.

This module reads such a text and looks characters up in it.  What a value means is for the table
to say.
-/

namespace SenderPolicy.Idna

/-- One entry of a character table. -/
structure Run where
  first : Nat
  last : Nat
  stride : Nat
  value : List Char
  deriving DecidableEq, Repr

namespace Run

/-- Whether a code point belongs to the run. -/
def covers (run : Run) (n : Nat) : Bool :=
  run.first ≤ n && n ≤ run.last && (n - run.first) % run.stride == 0

/-- The text behind a separator, if there is one. -/
def behind (cut : List Char × List Char) : Option (List Char) :=
  match cut.2 with
  | [] => none
  | _ :: rest => some rest

/-- Read an entry. -/
def parse? (entry : List Char) : Option Run := do
  let whole := Text.cutBefore '=' entry
  let strided := Text.cutBefore '/' whole.1
  let bounds := Text.cutBefore '-' strided.1
  let first ← Numeral.hexadecimal? bounds.1
  let last ← match behind bounds with
    | some last => Numeral.hexadecimal? last
    | none => some first
  let stride ← match behind strided with
    | some stride => Numeral.hexadecimal? stride
    | none => some 1
  return ⟨first, last, stride, (behind whole).getD []⟩

end Run

/-- A character table: its runs, in the order in which they are written. -/
abbrev Table := List Run

/-- The code points in a value, which is hexadecimal numbers with dots between them. -/
def codePoints (value : List Char) : List Nat :=
  (value.splitOn '.').filterMap Numeral.hexadecimal?

/-- What the value of a run makes of one of its characters: the characters listed, or, where only
one is listed, the one as far from it as the character is from the first of the run. -/
def Run.image (run : Run) (c : Char) : List Char :=
  match codePoints run.value with
  | [n] => [Char.ofNat (n + (c.toNat - run.first))]
  | ns => ns.map Char.ofNat

namespace Table

/-- Read a table. -/
def parse (text : String) : Table :=
  (text.toList.splitOnP fun c => c == ' ' || c == '\n').filterMap Run.parse?

/-- The run that a character belongs to. -/
def run? (table : Table) (c : Char) : Option Run :=
  table.find? (·.covers c.toNat)

/-- Whether a character belongs to some run. -/
def contains (table : Table) (c : Char) : Bool :=
  table.any (·.covers c.toNat)

end Table

end SenderPolicy.Idna
