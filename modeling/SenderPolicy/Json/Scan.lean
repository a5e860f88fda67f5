import SenderPolicy.Text.Numeral

/-!
# The lexical level of JSON

A JSON text can be wrong in three ways.  It can break the grammar, it can end too early, and it can
be a value of the wrong kind; `Fault` tells them apart, and reading stops at the first fault, in the
order of the text.

This module reads what has no structure: blanks, the three words, strings and numbers.  Each function
takes the text that is left and returns what is left after it.

Strings are read by an automaton over the characters, one character at a time.  An escape
`\u` takes four hexadecimal digits; a code of the leading half of a pair has to be followed by an
escape of the trailing half.  Whether the four digits are there at all is decided first, by
counting bytes.
-/

namespace SenderPolicy.Json

/-- What is wrong with a JSON text. -/
inductive Fault where
  /-- The value is of the wrong kind, or out of range. -/
  | mismatch
  /-- The text breaks the grammar. -/
  | malformed
  /-- The text ends too early. -/
  | truncated
  deriving DecidableEq, Repr

/-- What a reader makes of a text: a value and the text that is left, or a fault. -/
abbrev Reader := StateT (List Char) (Except Fault)

/-- Whether a character may stand between the parts of a text. -/
def isBlank (c : Char) : Bool :=
  c == ' ' || c == '\n' || c == '\t' || c == '\r'

namespace Reader

/-- Stop with a fault. -/
def fault {α : Type} (f : Fault) : Reader α := fun _ => .error f

/-- The next character that is not blank, which is left where it is. -/
def peek? : Reader (Option Char) := fun cs =>
  .ok ((cs.dropWhile isBlank).head?, cs.dropWhile isBlank)

/-- The next character that is not blank, which is left where it is; there has to be one. -/
def peek : Reader Char := do
  match ← peek? with
  | some c => return c
  | none => fault .truncated

/-- Pass over one character. -/
def skip : Reader Unit := modify (·.drop 1)

/-- Pass over the characters given, which have to be there. -/
def expect : List Char → Reader Unit
  | [] => pure ()
  | c :: cs => do
    match ← get with
    | [] => fault .truncated
    | d :: ds => if c = d then do set ds; expect cs else fault .malformed

/-- Pass over a separator, blanks in front of it forgiven. -/
def separator (c : Char) : Reader Unit := do
  if (← peek) = c then skip else fault .malformed

end Reader

/-! ## Strings -/

/-- Where the reading of a string stands. -/
inductive StringState where
  /-- Between characters. -/
  | plain
  /-- Behind a backslash. -/
  | escape
  /-- In the digits of a code, which may be the second of a pair. -/
  | code (lead : Option Nat) (digits : List Nat)
  /-- Behind the first code of a pair. -/
  | halfway (lead : Nat)
  /-- Behind the backslash that follows the first code of a pair. -/
  | halfwayEscape (lead : Nat)
  deriving DecidableEq, Repr

/-- The number of bytes of a text. -/
def byteCount (cs : List Char) : Nat := cs.foldr (fun c count => c.utf8Size + count) 0

/-- The character that a backslash makes of the character behind it. -/
def unescape? (c : Char) : Option Char :=
  if c = '"' ∨ c = '\\' ∨ c = '/' then some c
  else if c = 'b' then some '\x08'
  else if c = 'f' then some '\x0c'
  else if c = 'n' then some '\n'
  else if c = 'r' then some '\r'
  else if c = 't' then some '\t'
  else none

/-- Whether a code is the leading half of a pair. -/
def isLeading (n : Nat) : Bool := 0xD800 ≤ n && n ≤ 0xDBFF

/-- Whether a code is the trailing half of a pair. -/
def isTrailing (n : Nat) : Bool := 0xDC00 ≤ n && n ≤ 0xDFFF

/-- What comes after the last digit of a code: a character, or the second code of a pair. -/
def afterCode (lead : Option Nat) (n : Nat) : Except Fault (Option Char × StringState) :=
  match lead with
  | none =>
    if isTrailing n then .error .malformed
    else if isLeading n then .ok (none, .halfway n)
    else .ok (some (Char.ofNat n), .plain)
  | some m =>
    if isTrailing n then
      .ok (some (Char.ofNat (0x10000 + (m - 0xD800) * 0x400 + (n - 0xDC00))), .plain)
    else .error .malformed

/-- Start a code, if there is room for four digits. -/
def startCode (lead : Option Nat) (rest : List Char) : Except Fault StringState :=
  if byteCount rest < 4 then .error .truncated else .ok (.code lead [])

/-- Read a string up to its closing quote. -/
def scanString : StringState → List Char → Except Fault (List Char × List Char)
  | _, [] => .error .truncated
  | .plain, c :: cs =>
    if c = '"' then .ok ([], cs)
    else if c = '\\' then scanString .escape cs
    else if c.toNat < 0x20 then .error .malformed
    else do
      let (text, rest) ← scanString .plain cs
      return (c :: text, rest)
  | .escape, c :: cs =>
    if c = 'u' then do scanString (← startCode none cs) cs
    else
      match unescape? c with
      | none => .error .malformed
      | some d => do
        let (text, rest) ← scanString .plain cs
        return (d :: text, rest)
  | .code lead digits, c :: cs =>
    match Numeral.hexDigit? c with
    | none => .error .malformed
    | some d =>
      if digits.length < 3 then scanString (.code lead (digits ++ [d])) cs
      else do
        let (char?, state) ← afterCode lead (Numeral.value 16 (digits ++ [d]))
        let (text, rest) ← scanString state cs
        return (char?.toList ++ text, rest)
  | .halfway lead, c :: cs =>
    if c = '\\' then scanString (.halfwayEscape lead) cs else .error .malformed
  | .halfwayEscape lead, c :: cs =>
    if c = 'u' then do scanString (← startCode (some lead) cs) cs else .error .malformed

/-- Pass over a string up to its closing quote, where codes do not have to pair up. -/
def passString : StringState → List Char → Except Fault (List Char)
  | _, [] => .error .truncated
  | .escape, c :: cs =>
    if c = 'u' then do passString (← startCode none cs) cs
    else if (unescape? c).isSome then passString .plain cs
    else .error .malformed
  | .code lead digits, c :: cs =>
    match Numeral.hexDigit? c with
    | none => .error .malformed
    | some d =>
      if digits.length < 3 then passString (.code lead (digits ++ [d])) cs else passString .plain cs
  | _, c :: cs =>
    if c = '"' then .ok cs
    else if c = '\\' then passString .escape cs
    else if c.toNat < 0x20 then .error .malformed
    else passString .plain cs

namespace Reader

/-- Read a string behind its opening quote. -/
def string : Reader String := fun cs => do
  let (text, rest) ← scanString .plain cs
  return (String.ofList text, rest)

/-- Pass over a string behind its opening quote. -/
def passOverString : Reader Unit := fun cs => do
  return ((), ← passString .plain cs)

end Reader

/-! ## Numbers -/

/-- The digits at the start of a text, and what is behind them. -/
def leadingDigits (cs : List Char) : List Char × List Char :=
  (cs.takeWhile Char.isDigit, cs.dropWhile Char.isDigit)

/-- The digits of the whole part: a zero, or digits that do not start with one.  `onEnd` is the
fault of a text that ends here. -/
def wholeDigits (onEnd : Fault) : List Char → Except Fault (List Char × List Char)
  | [] => .error onEnd
  | '0' :: cs =>
    if (cs.head?.any Char.isDigit) then .error .malformed else .ok (['0'], cs)
  | c :: cs => if c.isDigit then .ok (leadingDigits (c :: cs)) else .error .malformed

/-- One or more digits. -/
def someDigits (onEnd : Fault) (cs : List Char) : Except Fault (List Char × List Char) :=
  match leadingDigits cs with
  | ([], []) => .error onEnd
  | ([], _) => .error .malformed
  | found => .ok found

/-- The digits behind the point, if there is a point. -/
def fractionDigits (onEnd : Fault) : List Char → Except Fault (List Char × List Char)
  | '.' :: cs => someDigits onEnd cs
  | cs => .ok ([], cs)

/-- The exponent, if there is one. -/
def exponent? (onEnd : Fault) : List Char → Except Fault (Option Int × List Char)
  | c :: cs =>
    if c = 'e' ∨ c = 'E' then do
      let (negative, cs) := match cs with
        | '+' :: cs => (false, cs)
        | '-' :: cs => (true, cs)
        | cs => (false, cs)
      let (digits, cs) ← someDigits onEnd cs
      let n : Int := Nat.ofDigitChars 10 digits 0
      return (some (if negative then -n else n), cs)
    else .ok (none, c :: cs)
  | [] => .ok (none, [])

/-- The largest whole number that is kept exactly. -/
def maxWhole : Nat := 2 ^ 64 - 1

/-- A number extended by digits for as long as it is kept exactly, and how many digits that takes
in. -/
def extend (n : Nat) : List Char → Nat × Nat
  | [] => (n, 0)
  | c :: cs =>
    let extended := Nat.ofDigitChars 10 [c] n
    if maxWhole < extended then (n, 0)
    else
      let (m, count) := extend extended cs
      (m, count + 1)

/-- A whole number to 53 binary digits: the nearest, and the even one of two that are equally
near. -/
def roundToDouble (n : Nat) : Nat :=
  let unit := 2 ^ (n.log2 - 52)
  let units := n / unit
  let rest := n % unit
  if unit < 2 * rest ∨ (2 * rest = unit ∧ units % 2 = 1) then (units + 1) * unit else units * unit

/-- The least power of two that is past the largest double. -/
def doubleOverflow : Nat := 2 ^ 1024

/-- The largest power of ten that is a double. -/
def maxPowerOfTen : Int := 308

/-- Whether `significand · 10 ^ exponent` is too large for a double.  Both factors are rounded to
doubles, and then their product is. -/
def isTooLarge (significand : Nat) (exponent : Int) : Bool :=
  if significand = 0 ∨ exponent < 0 then false
  else if maxPowerOfTen < exponent then true
  else
    doubleOverflow ≤
      roundToDouble (roundToDouble significand * roundToDouble (10 ^ exponent.toNat))

/-- Read a number.  The value is there only for a whole number that is written without sign, point
and exponent, and is not too large to be kept exactly.  Of the digits, those are used that come
before the first that would make the number too large to be kept exactly. -/
def scanNumber (cs : List Char) : Except Fault (Option Nat × List Char) := do
  let (negative, cs) := match cs with
    | '-' :: cs => (true, cs)
    | cs => (false, cs)
  let (whole, cs) ← wholeDigits .truncated cs
  let isFractional := cs.head? = some '.'
  let (fraction, cs) ← fractionDigits .truncated cs
  let (exponent, cs) ← exponent? .truncated cs
  let (wholePart, wholeCount) := extend 0 whole
  let (significand, fractionCount) := extend wholePart fraction
  if isTooLarge significand (exponent.getD 0 + (whole.length - wholeCount) - fractionCount) then
    .error .malformed
  else if negative ∨ isFractional ∨ exponent.isSome ∨ wholeCount < whole.length then
    return (none, cs)
  else return (some wholePart, cs)

/-- Pass over a number.  A number that is cut short breaks the grammar. -/
def passNumber (cs : List Char) : Except Fault (List Char) := do
  let cs := match cs with
    | '-' :: cs => cs
    | cs => cs
  let (_, cs) ← wholeDigits .malformed cs
  let (_, cs) ← fractionDigits .malformed cs
  let (_, cs) ← exponent? .malformed cs
  return cs

namespace Reader

/-- Whether a character starts a number. -/
def startsNumber (c : Char) : Bool := c == '-' || c.isDigit

/-- Read a number. -/
def number : Reader (Option Nat) := scanNumber

/-- Pass over a number. -/
def passOverNumber : Reader Unit := fun cs => do
  return ((), ← passNumber cs)

end Reader

end SenderPolicy.Json
