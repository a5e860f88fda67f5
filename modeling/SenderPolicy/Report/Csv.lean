/-!
# Comma-separated values

Fields are separated by commas and rows are ended by line feeds.  A field is put between quotes when
there is a comma, a quote, a line feed or a carriage return in it, and then its quotes are doubled.
No other field is quoted.
-/

namespace SenderPolicy.Csv

/-- Whether a character forces its field between quotes. -/
def isSpecial (c : Char) : Bool :=
  c == ',' || c == '"' || c == '\n' || c == '\r'

/-- A quote is written twice, and all else once. -/
def doubleQuotes (cs : List Char) : List Char :=
  cs.flatMap fun c => if c = '"' then ['"', '"'] else [c]

/-- The text of a field. -/
def field (s : String) : List Char :=
  if s.toList.any isSpecial then '"' :: doubleQuotes s.toList ++ ['"'] else s.toList

/-- The text of a row. -/
def row (fields : List String) : List Char :=
  [','].intercalate (fields.map field) ++ ['\n']

/-- The text of a table. -/
def table (rows : List (List String)) : String :=
  String.ofList (rows.flatMap row)

end SenderPolicy.Csv
