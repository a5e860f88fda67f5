import SenderPolicy.Text.AsciiCase
import SenderPolicy.Text.Blank

/-!
# Names that are the same

Two spellings name the same host when they differ in surrounding blanks, in the dots that end
them, or in the case of ASCII letters.  `Name.key` is the spelling that all of them share; it is
used to recognise a name that has been met before, never to ask a question.
-/

namespace SenderPolicy.Name

/-- The spelling shared by all spellings of one name. -/
def keyChars (cs : List Char) : List Char :=
  (Text.dropRootDots (Text.trimBlanks cs)).map Char.toLower

/-- The spelling shared by all spellings of one name. -/
def key (name : String) : String := String.ofList (keyChars name.toList)

end SenderPolicy.Name
