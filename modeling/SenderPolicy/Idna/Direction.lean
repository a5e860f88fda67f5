import SenderPolicy.Idna.Mapping
import SenderPolicy.Idna.Table.Direction

/-!
# Labels and the direction of writing

When some label of a name holds a character that is written from right to left, every label has to
be readable on its own, so that the labels cannot change places on the screen.  A label is either
written from left to right, and then holds nothing that is written the other way, or from right
to left; and it has to end in a letter or a digit of its own direction, marks aside.
-/

namespace SenderPolicy.Idna

/-- The bidirectional class of a character, by its usual abbreviation. -/
def bidiClass (c : Char) : String :=
  match Table.direction.run? c with
  | some run => String.ofList run.value
  | none => "L"

/-- Whether a character is written from right to left. -/
def isRightToLeft (c : Char) : Bool :=
  !isAscii c && ["R", "AL", "AN"].contains (bidiClass c)

/-- The classes of a label without the marks at its end. -/
def withoutFinalMarks (classes : List String) : List String :=
  (classes.reverse.dropWhile (· == "NSM")).reverse

/-- Whether classes are those of a label that is written from left to right. -/
def readsLeftToRight (classes : List String) : Bool :=
  classes.head? == some "L" &&
    classes.all ["L", "EN", "ES", "CS", "ET", "ON", "BN", "NSM"].contains &&
    (withoutFinalMarks classes).getLast?.any ["L", "EN"].contains

/-- Whether classes are those of a label that is written from right to left.  Digits of the two
kinds do not occur together. -/
def readsRightToLeft (classes : List String) : Bool :=
  classes.head?.any ["R", "AL"].contains &&
    classes.all ["R", "AL", "AN", "EN", "ES", "CS", "ET", "ON", "BN", "NSM"].contains &&
    (withoutFinalMarks classes).getLast?.any ["R", "AL", "EN", "AN"].contains &&
    !(classes.contains "EN" && classes.contains "AN")

/-- Whether a label can be read on its own. -/
def readsAlone (label : List Char) : Bool :=
  let classes := label.map bidiClass
  label.isEmpty || readsLeftToRight classes || readsRightToLeft classes

/-- Whether the labels of a name keep their places: either nothing in them is written from right to
left, or each can be read on its own. -/
def keepPlaces (labels : List (List Char)) : Bool :=
  !labels.any (·.any isRightToLeft) || labels.all readsAlone

end SenderPolicy.Idna
