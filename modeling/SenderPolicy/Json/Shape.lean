import SenderPolicy.Json.Scan
import SenderPolicy.Json.Value

/-!
# Reading JSON by shape

A `Shape` says what a value has to look like, and `Shape.read` reads a text against it.  The text is
read once, from left to right, and the first fault ends the reading: a value of the wrong kind in the
middle of a text is reported even if the text breaks off later, and the other way round.

What is read is a JSON value in a settled form: the fields of a record all there and in the
order of the shape, with null for one that may be left out.  Types turn this form into their values,
which cannot fail in a way that depends on the text any more.

## What is forgiven

The fields of a record come in any order, and unknown ones are passed over, whatever they hold.
A record may also be written as the array of its fields.  A field that is optional may be missing; any
other missing field, and a field that is given twice, is a mismatch.  A variant without a payload is
written as its name, or as an object with its name and null.

## How reading ends

The parts of an array or an object are read in a loop of at most as many rounds as there are
characters left, and each round takes at least one.
-/

namespace SenderPolicy.Json

mutual

/-- What a value has to look like. -/
inductive Shape where
  /-- A string that satisfies a condition. -/
  | text (valid : String → Bool)
  /-- A whole number from zero to `bound`. -/
  | count (bound : Nat)
  /-- True or false. -/
  | flag
  /-- Null, or a value. -/
  | optional (shape : Shape)
  /-- An array of values. -/
  | list (shape : Shape)
  /-- An object with the fields given, or the array of their values. -/
  | record (fields : Fields)
  /-- One of the variants given. -/
  | variants (variants : Variants)

/-- The fields of a record, in order. -/
inductive Fields where
  | nil
  | cons (name : String) (shape : Shape) (rest : Fields)

/-- The variants of a choice. -/
inductive Variants where
  | nil
  /-- A variant that is its name. -/
  | unit (name : String) (rest : Variants)
  /-- A variant with a payload. -/
  | payload (name : String) (shape : Shape) (rest : Variants)

end

namespace Reader

/-- Complain about a value that is of another kind than expected.  A word, a string or a number has to
be complete to be a value at all. -/
def unexpected {α : Type} : Reader α := do
  let c ← peek
  if c = 'n' then skip; expect ['u', 'l', 'l']; fault .mismatch
  else if c = 't' then skip; expect ['r', 'u', 'e']; fault .mismatch
  else if c = 'f' then skip; expect ['a', 'l', 's', 'e']; fault .mismatch
  else if startsNumber c then let _ ← number; fault .mismatch
  else if c = '"' then skip; let _ ← string; fault .mismatch
  else if c = '[' ∨ c = '{' then fault .mismatch
  else fault .malformed

/-- Read a string. -/
def text : Reader String := do
  if (← peek) = '"' then skip; string else unexpected

/-- Read the name of a member. -/
def memberName : Reader String := do
  if (← peek) = '"' then skip; string else fault .malformed

/-- Read parts up to a closing bracket, with commas between them.  `part` takes what has been
gathered so far. -/
def parts {σ : Type} (close : Char) (part : σ → Reader σ) :
    (rounds : Nat) → (isFirst : Bool) → σ → Reader σ
  | 0, _, _ => fault .truncated
  | rounds + 1, isFirst, gathered => do
    let c ← peek
    if c = close then do skip; return gathered
    else if isFirst then do parts close part rounds false (← part gathered)
    else if c = ',' then do skip; parts close part rounds false (← part gathered)
    else fault .malformed

/-- Read the parts behind an opening bracket. -/
def bracketed {σ : Type} (close : Char) (part : σ → Reader σ) (start : σ) : Reader σ := do
  parts close part ((← get).length + 1) true start

/-- Pass over a value, whatever it is, that is nested in less than `depth` brackets. -/
def passOver : (depth : Nat) → Reader Unit
  | 0 => fault .truncated
  | depth + 1 => do
    let c ← peek
    if c = 'n' then skip; expect ['u', 'l', 'l']
    else if c = 't' then skip; expect ['r', 'u', 'e']
    else if c = 'f' then skip; expect ['a', 'l', 's', 'e']
    else if startsNumber c then passOverNumber
    else if c = '"' then skip; passOverString
    else if c = '[' then skip; bracketed ']' (fun _ => passOver depth) ()
    else if c = '{' then
      skip
      bracketed '}'
        (fun _ => do
          if (← peek) = '"' then skip; passOverString; separator ':'; passOver depth
          else fault .malformed)
        ()
    else fault .malformed

/-- Pass over a value, whatever it is. -/
def passOverValue : Reader Unit := do passOver ((← get).length + 1)

/-- Read a whole text. -/
def run {α : Type} (reader : Reader α) (cs : List Char) : Except Fault α := do
  let (a, rest) ← reader cs
  if rest.all isBlank then return a else throw .malformed

end Reader

open Reader

/-- The value found for a field, if the field was found. -/
def found? (found : List (String × Json)) (name : String) : Option Json :=
  (found.find? (·.1 == name)).map (·.2)

mutual

/-- Read a value of a shape. -/
def Shape.read : Shape → Reader Json
  | .text valid => do
    let s ← Reader.text
    if valid s then return .str s else fault .mismatch
  | .count bound => do
    if startsNumber (← peek) then
      match ← number with
      | some n => if n ≤ bound then return .num n else fault .mismatch
      | none => fault .mismatch
    else unexpected
  | .flag => do
    let c ← peek
    if c = 't' then skip; expect ['r', 'u', 'e']; return .bool true
    else if c = 'f' then skip; expect ['a', 'l', 's', 'e']; return .bool false
    else unexpected
  | .optional shape => do
    if (← peek) = 'n' then skip; expect ['u', 'l', 'l']; return .null
    else shape.read
  | .list shape => do
    if (← peek) = '[' then
      skip
      return .arr (← bracketed ']' (fun items => return items ++ [← shape.read]) [])
    else unexpected
  | .record fields => do
    let c ← peek
    if c = '{' then
      skip
      let found ← bracketed '}'
        (fun found => do
          let name ← memberName
          match fields.reader? name with
          | none => do separator ':'; passOverValue; return found
          | some reader =>
            if (found? found name).isSome then fault .mismatch
            else do separator ':'; return found ++ [(name, ← reader)])
        []
      match fields.settle found with
      | some members => return .obj members
      | none => fault .mismatch
    else if c = '[' then
      skip
      let members ← fields.readRow true
      separator ']'
      return .obj members
    else unexpected
  | .variants variants => do
    let c ← peek
    if c = '"' then
      skip
      variants.named (← string)
    else if c = '{' then
      skip
      -- whatever is no string here makes the text malformed, and not a choice that does not exist
      let name ← memberName
      let value ← variants.readVariant name
      separator '}'
      return value
    else fault .malformed

/-- How to read the field of a name, if there is one. -/
def Fields.reader? : Fields → String → Option (Reader Json)
  | .nil, _ => none
  | .cons name shape rest, sought =>
    if name = sought then some shape.read else rest.reader? sought

/-- All fields in order, where those that were found are given. -/
def Fields.settle : Fields → List (String × Json) → Option (List (String × Json))
  | .nil, _ => some []
  | .cons name shape rest, found => do
    let value ←
      match found? found name with
      | some value => some value
      | none =>
        match shape with
        | .optional _ => some Json.null
        | _ => none
    return (name, value) :: (← rest.settle found)

/-- Read fields as the items of an array. -/
def Fields.readRow : Fields → (isFirst : Bool) → Reader (List (String × Json))
  | .nil, _ => return []
  | .cons name shape rest, isFirst => do
    let c ← peek
    if c = ']' then fault .mismatch
    else
      unless isFirst do separator ','
      let value ← shape.read
      return (name, value) :: (← rest.readRow false)

/-- The variant that a string names. -/
def Variants.named : Variants → String → Reader Json
  | .nil, _ => fault .mismatch
  | .unit name rest, sought => if name = sought then return .str name else rest.named sought
  | .payload name _ rest, sought =>
    if name = sought then fault .mismatch else rest.named sought

/-- Read what follows the name of a variant in an object. -/
def Variants.readVariant : Variants → String → Reader Json
  | .nil, _ => fault .mismatch
  | .unit name rest, sought =>
    if name = sought then do
      separator ':'
      if (← peek) = 'n' then skip; expect ['u', 'l', 'l']; return .str name else unexpected
    else rest.readVariant sought
  | .payload name shape rest, sought =>
    if name = sought then do
      separator ':'
      return .obj [(name, ← shape.read)]
    else rest.readVariant sought

end

/-- Null is told by its first letter, and anything else is left to the shape. -/
theorem Shape.read_optional (shape : Shape) :
    (Shape.optional shape).read = (do
      if (← peek) = 'n' then skip; expect ['u', 'l', 'l']; return .null
      else shape.read) := by
  rw [Shape.read]

end SenderPolicy.Json
