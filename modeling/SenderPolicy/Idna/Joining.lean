import SenderPolicy.Idna.Composition
import SenderPolicy.Idna.Table.Joining

/-!
# Where joiners may stand

The zero width joiner and the zero width non-joiner are invisible, so they are admitted only where
they make a visible difference: behind a virama, and the non-joiner also between two letters that
would join without it.
-/

namespace SenderPolicy.Idna

/-- The combining class of viramas. -/
def viramaClass : Nat := 9

/-- The joining type of a character. -/
def joiningType (c : Char) : String :=
  match Table.joining.run? c with
  | some run => String.ofList run.value
  | none => "U"

/-- The joining type of the first character that joining does not look through. -/
def nextJoiningType (cs : List Char) : Option String :=
  (cs.map joiningType).find? (· != "T")

/-- Whether a joiner may stand between what is before it (last character first) and what is behind
it. -/
def joinerFits (c : Char) (before after : List Char) : Bool :=
  match before with
  | [] => false
  | previous :: _ =>
    combiningClass previous == viramaClass ||
      (c == zeroWidthNonJoiner && (nextJoiningType before).any ["L", "D"].contains &&
        (nextJoiningType after).any ["R", "D"].contains)

/-- Whether every joiner of a text may stand where it stands, behind what is before (last character
first). -/
def joinersFit (before : List Char) : List Char → Bool
  | [] => true
  | c :: cs =>
    (if c = zeroWidthJoiner ∨ c = zeroWidthNonJoiner then joinerFits c before cs else true) &&
      joinersFit (c :: before) cs

end SenderPolicy.Idna
