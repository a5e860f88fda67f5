import SenderPolicy.Json.Shape

/-!
# Types that are kept as JSON

A type is kept as JSON by a shape, a conversion to JSON, and a conversion from what is read against
the shape.  `encode` writes a value on one line; `decode` reads a text and says what is wrong with it
if it is not one of a value.
-/

namespace SenderPolicy.Json

/-- How the values of a type are kept as JSON. -/
class Codec (α : Type) where
  /-- What the JSON of a value looks like. -/
  shape : Shape
  /-- The JSON of a value. -/
  toJson : α → Json
  /-- The value of a JSON value of that shape. -/
  ofJson? : Json → Option α

variable {α : Type} [Codec α]

/-- The text of a value, on one line. -/
def encode (a : α) : String := (Codec.toJson a).compact

/-- Read the text of a value. -/
def decode (text : String) : Except Fault α := do
  let json ← (Codec.shape α).read.run text.toList
  match Codec.ofJson? json with
  | some a => return a
  | none => throw .mismatch

/-- The JSON of a list. -/
def ofList (as : List α) : Json := .arr (as.map Codec.toJson)

/-- The values of an array. -/
def toList? : Json → Option (List α)
  | .arr items => items.mapM Codec.ofJson?
  | _ => none

/-- The string that a value is. -/
def asString? : Json → Option String
  | .str s => some s
  | _ => none

/-- The string that a value is, if it is not null. -/
def asOptionalString? : Json → Option (Option String)
  | .str s => some (some s)
  | .null => some none
  | _ => none

/-- The largest count that is kept. -/
def maxCount : Nat := 2 ^ 64 - 1

/-- Any string. -/
def Shape.string : Shape := .text fun _ => true

/-- Any count. -/
def Shape.anyCount : Shape := .count maxCount

/-- Fields from a list. -/
def Fields.ofList (fields : List (String × Shape)) : Fields :=
  fields.foldr (fun (name, shape) rest => .cons name shape rest) .nil

/-- A record from a list of its fields. -/
def Shape.ofFields (fields : List (String × Shape)) : Shape := .record (Fields.ofList fields)

/-- A choice between names. -/
def Shape.ofNames (names : List String) : Shape :=
  .variants (names.foldr Variants.unit .nil)

/-- A choice between variants with payloads. -/
def Shape.ofPayloads (variants : List (String × Shape)) : Shape :=
  .variants (variants.foldr (fun (name, shape) rest => .payload name shape rest) .nil)

instance : Codec String where
  shape := .string
  toJson := .str
  ofJson? := asString?

end SenderPolicy.Json
