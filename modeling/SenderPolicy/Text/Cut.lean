/-!
# Cutting a text in two

Two cuts, both at the first place where they are possible: at a doubled separator, which goes
missing, and in front of a separator, which stays.
-/

namespace SenderPolicy.Text

/-- The text before and after the first two `sep`s in a row. -/
def cutAtDouble (sep : Char) : List Char → Option (List Char × List Char)
  | [] => none
  | [_] => none
  | c :: d :: cs =>
    if c = sep ∧ d = sep then some ([], cs)
    else (cutAtDouble sep (d :: cs)).map fun (before, after) => (c :: before, after)

/-- The text up to the first `sep`, and the text from there on. -/
def cutBefore (sep : Char) (cs : List Char) : List Char × List Char :=
  (cs.takeWhile (· != sep), cs.dropWhile (· != sep))

theorem eq_append_of_cutAtDouble {sep : Char} {cs before after : List Char}
    (h : cutAtDouble sep cs = some (before, after)) : cs = before ++ sep :: sep :: after := by
  induction cs generalizing before after with
  | nil => simp [cutAtDouble] at h
  | cons c cs ih =>
    cases cs with
    | nil => simp [cutAtDouble] at h
    | cons d cs =>
      rw [cutAtDouble] at h
      split at h
      · next hsep =>
        obtain ⟨rfl, rfl⟩ := hsep
        simp only [Option.some.injEq, Prod.mk.injEq] at h
        rw [← h.1, ← h.2, List.nil_append]
      · obtain ⟨⟨b, a⟩, hcut, hba⟩ := Option.map_eq_some_iff.mp h
        simp only [Prod.mk.injEq] at hba
        obtain ⟨rfl, rfl⟩ := hba
        rw [ih hcut, List.cons_append]

/-- Nothing goes missing. -/
theorem cutBefore_append (sep : Char) (cs : List Char) :
    (cutBefore sep cs).1 ++ (cutBefore sep cs).2 = cs := by
  rw [cutBefore, List.takeWhile_append_dropWhile]

/-- The cut is at the first `sep`, or behind everything. -/
theorem cutBefore_spec (sep : Char) (cs : List Char) :
    sep ∉ (cutBefore sep cs).1 ∧
      ((cutBefore sep cs).2 = [] ∨ (cutBefore sep cs).2.head? = some sep) := by
  rw [cutBefore]
  constructor
  · intro hsep
    have hall : (cs.takeWhile (· != sep)).all (· != sep) = true := List.all_takeWhile
    exact bne_iff_ne.mp (List.all_eq_true.mp hall sep hsep) rfl
  · have hhead := List.head?_dropWhile_not (· != sep) cs
    cases htail : cs.dropWhile (· != sep) with
    | nil => exact Or.inl rfl
    | cons c tail =>
      rw [htail] at hhead
      exact Or.inr (congrArg some (bne_eq_false_iff_eq.mp hhead))

end SenderPolicy.Text
