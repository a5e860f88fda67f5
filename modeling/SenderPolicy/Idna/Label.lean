import SenderPolicy.Idna.Joining
import SenderPolicy.Idna.Punycode
import SenderPolicy.Idna.Table.Mark

/-!
# The labels of a name

A label is read after the characters of the name have been mapped and composed.  It is one of
three things.

* *Plain*: ASCII, and not marked as an encoding.  It is taken as it is; even an empty label and
  one with spaces in it pass.
* *Encoded*: marked by `xn--`.  What follows has to be the encoding of a text that mapping and
  composition leave alone.
* *International*: it holds characters past ASCII, and is encoded.

The text of an encoded or international label must not start with a mark, its joiners must fit, and
it must not have more than a thousand characters.
-/

namespace SenderPolicy.Idna

/-- A label in its two forms. -/
structure Label where
  /-- The text that is read. -/
  unicode : List Char
  /-- The text that is looked up. -/
  ascii : List Char
  deriving DecidableEq, Repr

namespace Label

/-- What marks a label as an encoding. -/
def marker : List Char := ['x', 'n', '-', '-']

/-- The longest text of a label that is not plain. -/
def maxLength : Nat := 1000

/-- The longest encoding that is read. -/
def maxEncodingLength : Nat := 2000

/-- Whether a label that is not plain ASCII may be written this way. -/
def isWellFormed (unicode : List Char) : Bool :=
  unicode.length ≤ maxLength && !unicode.head?.any Table.marks.contains && joinersFit [] unicode

/-- Whether mapping and composition leave a text alone. -/
def isSettled (unicode : List Char) : Bool :=
  (mapChars? unicode).map compose == some unicode

/-- The text behind an encoding, if it is an encoding. -/
def decode? (encoding : List Char) : Option (List Char) :=
  if encoding.all isAscii ∧ encoding.getLast?.any (· != '-') ∧
      encoding.length ≤ maxEncodingLength then
    (Punycode.decode? encoding).filter fun unicode => isSettled unicode && isWellFormed unicode
  else none

/-- The encoding of a text, if it may be a label. -/
def encode? (unicode : List Char) : Option (List Char) :=
  if isWellFormed unicode then some (marker ++ Punycode.encode unicode) else none

/-- Read a mapped and composed label. -/
def read? (cs : List Char) : Option Label :=
  if cs.take 4 = marker then (decode? (cs.drop 4)).map fun unicode => ⟨unicode, cs⟩
  else if cs.all isAscii then some ⟨cs, cs⟩
  else (encode? cs).map fun ascii => ⟨cs, ascii⟩

end Label

end SenderPolicy.Idna
