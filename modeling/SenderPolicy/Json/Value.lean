/-!
# JSON values and their text

Numbers are natural numbers, because no value of this library holds any other.  The members of an
object are kept in the order in which they are written.

One function writes both layouts.  A layout says what stands where a line may break and what stands
between a name and its value; `compact` puts nothing there, `pretty` a line break with two
spaces for each level, and one space after the colon.  An empty array or object never breaks.

In a string, quotes and backslashes are escaped, and so are the control characters below the space;
every other character stands for itself, whatever its code point.
-/

namespace SenderPolicy

/-- A JSON value. -/
inductive Json where
  | null
  | bool (b : Bool)
  | num (n : Nat)
  | str (s : String)
  | arr (items : List Json)
  | obj (members : List (String × Json))

namespace Json

/-- How a character is written in a string. -/
def escapeChar (c : Char) : List Char :=
  if c = '"' then ['\\', '"']
  else if c = '\\' then ['\\', '\\']
  else if c = '\x08' then ['\\', 'b']
  else if c = '\x0c' then ['\\', 'f']
  else if c = '\n' then ['\\', 'n']
  else if c = '\r' then ['\\', 'r']
  else if c = '\t' then ['\\', 't']
  else if c.toNat < 0x20 then
    ['\\', 'u', '0', '0', Nat.digitChar (c.toNat / 16), Nat.digitChar (c.toNat % 16)]
  else [c]

/-- A string between quotes. -/
def quoted (s : String) : List Char :=
  '"' :: s.toList.flatMap escapeChar ++ ['"']

/-- What stands where a line may break, at a level, and between a name and its value. -/
structure Layout where
  lineBreak : (level : Nat) → List Char
  colon : List Char

/-- Everything on one line, without spaces. -/
def Layout.compact : Layout := ⟨fun _ => [], [':']⟩

/-- One item to a line, two spaces for each level. -/
def Layout.pretty : Layout := ⟨fun level => '\n' :: List.replicate (2 * level) ' ', [':', ' ']⟩

mutual

/-- The text of a value that stands at a level. -/
def write (layout : Layout) (level : Nat) : Json → List Char
  | null => ['n', 'u', 'l', 'l']
  | bool true => ['t', 'r', 'u', 'e']
  | bool false => ['f', 'a', 'l', 's', 'e']
  | num n => Nat.toDigits 10 n
  | str s => quoted s
  | arr [] => ['[', ']']
  | arr items =>
    '[' :: layout.lineBreak (level + 1) ++ writeItems layout (level + 1) items ++
      layout.lineBreak level ++ [']']
  | obj [] => ['{', '}']
  | obj members =>
    '{' :: layout.lineBreak (level + 1) ++ writeMembers layout (level + 1) members ++
      layout.lineBreak level ++ ['}']

/-- The items of an array, with commas between them. -/
def writeItems (layout : Layout) (level : Nat) : List Json → List Char
  | [] => []
  | [item] => write layout level item
  | item :: items =>
    write layout level item ++ ',' :: layout.lineBreak level ++ writeItems layout level items

/-- The members of an object, with commas between them. -/
def writeMembers (layout : Layout) (level : Nat) : List (String × Json) → List Char
  | [] => []
  | [(name, value)] => quoted name ++ layout.colon ++ write layout level value
  | (name, value) :: members =>
    quoted name ++ layout.colon ++ write layout level value ++
      ',' :: layout.lineBreak level ++ writeMembers layout level members

end

/-- The text of a value on one line. -/
def compact (value : Json) : String := String.ofList (value.write .compact 0)

/-- The text of a value, laid out over several lines. -/
def pretty (value : Json) : String := String.ofList (value.write .pretty 0)

/-- The members that are there. -/
def object (members : List (Option (String × Json))) : Json := obj (members.filterMap id)

/-- A member that is always there. -/
def member (name : String) (value : Json) : Option (String × Json) := some (name, value)

/-- A member that is there only if it has a value. -/
def member? (name : String) (value : Option Json) : Option (String × Json) :=
  value.map fun v => (name, v)

/-- A list as a member that is there only if it has items. -/
def items? (name : String) (items : List Json) : Option (String × Json) :=
  if items.isEmpty then none else some (name, arr items)

/-- A value, or null. -/
def orNull : Option Json → Json
  | some value => value
  | none => null

end Json

end SenderPolicy
