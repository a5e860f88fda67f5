import SenderPolicy.Idna.Direction
import SenderPolicy.Idna.Label

/-!
# International domain names in ASCII

`toAscii?` takes a name as a person writes it to the name that is looked up: map the characters,
compose, cut at the dots, read each label, and put the ASCII forms together again.  The dots that
are cut at are those that are there after the mapping, which turns ideographic full stops
into dots.

Nothing is asked about the length of a name or its labels, about hyphens, or about which ASCII
characters a host may have.  An empty label is a label.
-/

namespace SenderPolicy.Idna

/-- The labels of a name, if it is one. -/
def labels? (cs : List Char) : Option (List Label) := do
  let mapped ← mapChars? cs
  ((compose mapped).splitOn '.').mapM Label.read?

/-- The name in ASCII, if it is a name. -/
def toAscii? (cs : List Char) : Option (List Char) := do
  let labels ← labels? cs
  if keepPlaces (labels.map (·.unicode)) then some (['.'].intercalate (labels.map (·.ascii)))
  else none

end SenderPolicy.Idna
