import SenderPolicy.Net.Address.Basic
import SenderPolicy.Text.Cut

/-!
# Reading addresses

The grammar is strict about digits and generous about nothing else.  An octet has one to three
decimal digits and no leading zero; a group has one to four hexadecimal digits of either case.
IPv6 text is eight groups, or fewer on the two sides of one `::`, which then stands for at least
one zero group; its last two groups may be written as an IPv4 address, but not in front of the
`::`.

`read?` takes the whole text and nothing but the text.
-/

namespace SenderPolicy.Address

/-- One to three decimal digits without a leading zero, up to 255. -/
def octet? (cs : List Char) : Option Nat :=
  if cs.length ≤ 3 ∧ (cs.head? = some '0' → cs.length = 1) then
    (Numeral.decimal? cs).filter (· ≤ 255)
  else none

/-- Four octets with dots between them. -/
def dottedQuad? (cs : List Char) : Option (List Nat) :=
  ((cs.splitOn '.').mapM octet?).filter (·.length = 4)

/-- One to four hexadecimal digits. -/
def group? (cs : List Char) : Option Nat :=
  if cs.length ≤ 4 then Numeral.hexadecimal? cs else none

/-- Groups, of which the last two may be written as an IPv4 address. -/
def groupsThenQuad? : List (List Char) → Option (List Nat)
  | [] => some []
  | [last] =>
    match dottedQuad? last with
    | some octets => some (Numeral.digits 65536 2 (Numeral.value 256 octets))
    | none => (group? last).map ([·])
  | field :: fields => do return (← group? field) :: (← groupsThenQuad? fields)

/-- The fields between colons; no text has no fields. -/
def colonFields (cs : List Char) : List (List Char) :=
  if cs = [] then [] else cs.splitOn ':'

/-- The eight groups of an IPv6 address. -/
def eightGroups? (cs : List Char) : Option (List Nat) :=
  match Text.cutAtDouble ':' cs with
  | none => (groupsThenQuad? (colonFields cs)).filter (·.length = 8)
  | some (before, after) => do
    let head ← (colonFields before).mapM group?
    let tail ← groupsThenQuad? (colonFields after)
    if head.length + tail.length ≤ 7 then
      some (head ++ List.replicate (8 - head.length - tail.length) 0 ++ tail)
    else none

/-- The address that the text denotes, if it denotes one. -/
def read? (cs : List Char) : Option Address :=
  match dottedQuad? cs with
  | some octets => some (ofNat .v4 (Numeral.value 256 octets))
  | none => (eightGroups? cs).map fun groups => ofNat .v6 (Numeral.value 65536 groups)

/-- What an IPv6 text spells is eight groups. -/
theorem length_of_eightGroups?_eq_some {cs : List Char} {groups : List Nat}
    (h : eightGroups? cs = some groups) : groups.length = 8 := by
  rw [eightGroups?] at h
  split at h
  · simpa using (Option.filter_eq_some_iff.mp h).2
  · next before after _ =>
    cases hhead : (colonFields before).mapM group? with
    | none => simp [hhead] at h
    | some head =>
      cases htail : groupsThenQuad? (colonFields after) with
      | none => simp [hhead, htail] at h
      | some tail =>
        simp only [hhead, htail, Option.bind_eq_bind, Option.bind_some] at h
        split at h
        · rw [← Option.some.inj h]
          simp only [List.length_append, List.length_replicate]
          omega
        · simp at h

end SenderPolicy.Address
