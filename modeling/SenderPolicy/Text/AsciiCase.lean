/-!
# Letter case, ASCII only

Names and keywords are compared without regard to the case of the letters `A` to `Z`; every
other character, accented letters included, stands for itself alone.  `Char.toLower` is that
fold.

`afterKeyword?` is how a keyword is recognised: the keyword is given in lower case, and what
follows it is returned as it was written.
-/

namespace SenderPolicy.Text

/-- The string with `A` to `Z` in lower case. -/
def lowercase (s : String) : String :=
  String.ofList (s.toList.map Char.toLower)

/-- Equality up to the case of ASCII letters. -/
def equalFold (s t : String) : Bool :=
  s.toList.map Char.toLower == t.toList.map Char.toLower

/-- What follows the lower case `keyword` at the start of the text, in whatever case the keyword
was written there. -/
def afterKeyword? : (keyword : List Char) → List Char → Option (List Char)
  | [], rest => some rest
  | _ :: _, [] => none
  | k :: ks, c :: cs => if c.toLower = k then afterKeyword? ks cs else none

@[simp] theorem afterKeyword?_nil (cs : List Char) : afterKeyword? [] cs = some cs := by
  cases cs <;> rfl

/-- A keyword is found exactly where its letters stand. -/
theorem afterKeyword?_eq_some_iff {keyword cs rest : List Char} :
    afterKeyword? keyword cs = some rest ↔
      ∃ head, cs = head ++ rest ∧ head.map Char.toLower = keyword := by
  induction keyword generalizing cs with
  | nil => simp
  | cons k ks ih =>
    cases cs with
    | nil => simp [afterKeyword?]
    | cons c cs =>
      rw [afterKeyword?]
      split
      · next h =>
        rw [ih]
        constructor
        · rintro ⟨head, rfl, rfl⟩
          exact ⟨c :: head, rfl, by simp [h]⟩
        · rintro ⟨head, hcs, hhead⟩
          cases head with
          | nil => simp at hhead
          | cons d head =>
            simp only [List.cons_append, List.cons.injEq, List.map_cons] at hcs hhead
            exact ⟨head, hcs.2, hhead.2⟩
      · next h =>
        simp only [reduceCtorEq, false_iff, not_exists, not_and]
        intro head hcs hhead
        cases head with
        | nil => simp at hhead
        | cons d head =>
          simp only [List.cons_append, List.cons.injEq, List.map_cons] at hcs hhead
          exact h (hcs.1 ▸ hhead.1)

end SenderPolicy.Text
