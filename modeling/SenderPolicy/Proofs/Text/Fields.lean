import Mathlib.Data.List.Forall2
import SenderPolicy.Proofs.Text.Trimming
import SenderPolicy.Text.Cut

/-!
# Texts with separators

A text that is written field by field, with a separator between the fields, is read by splitting it
and reading the fields.  The splitting is the library's; here stands what else is needed.

* `mapM_eq_some_iff`: reading item by item relates two lists item by item.
* `Text.cutAtDouble_intercalate`, `Text.cutAtDouble_append`: a doubled separator is not to be found
  between fields that are not empty, so the first one in a text is the one that was put there.
-/

namespace SenderPolicy

/-! ## Item by item -/

/-- What is read item by item is read from each item. -/
theorem mapM_eq_some_iff {α β : Type} {f : α → Option β} {as : List α} {bs : List β} :
    as.mapM f = some bs ↔ List.Forall₂ (fun a b => f a = some b) as bs := by
  induction as generalizing bs with
  | nil => cases bs <;> simp
  | cons a as ih =>
    rw [List.mapM_cons]
    constructor
    · intro h
      obtain ⟨b, hb, h⟩ := Option.bind_eq_some_iff.mp h
      obtain ⟨rest, hrest, h⟩ := Option.bind_eq_some_iff.mp h
      obtain rfl := Option.some.inj h
      exact .cons hb (ih.mp hrest)
    · intro h
      cases h with
      | cons hb hrest =>
        rw [hb, ih.mpr hrest]
        rfl

/-- What is written item by item is related item by item. -/
theorem forall₂_map {α β : Type} {R : β → α → Prop} {write : α → β} {as : List α}
    (h : ∀ a ∈ as, R (write a) a) : List.Forall₂ R (as.map write) as := by
  rw [List.forall₂_map_left_iff, List.forall₂_same]
  exact h

theorem forall₂_map_right {α β : Type} {R : α → β → Prop} {write : α → β} {as : List α}
    (h : ∀ a ∈ as, R a (write a)) : List.Forall₂ R as (as.map write) := by
  rw [List.forall₂_map_right_iff, List.forall₂_same]
  exact h

/-- What holds of all that is related holds of the items of the first list, or of the second. -/
theorem forall_of_forall₂ {α β : Type} {R : α → β → Prop} {p : α → Prop} {as : List α}
    {bs : List β} (hp : ∀ a b, R a b → p a) (h : List.Forall₂ R as bs) : ∀ a ∈ as, p a :=
  ((List.forall₂_and_left as bs).mp (h.imp fun a b hab => ⟨hp a b hab, hab⟩)).1

theorem forall_right_of_forall₂ {α β : Type} {R : α → β → Prop} {p : β → Prop} {as : List α}
    {bs : List β} (hp : ∀ a b, R a b → p b) (h : List.Forall₂ R as bs) : ∀ b ∈ bs, p b :=
  forall_of_forall₂ (R := fun b a => R a b) (fun b a hab => hp a b hab) (List.Forall₂.flip h)

namespace Text

/-! ## Fields -/

variable {sep : Char} {cs : List Char} {fields : List (List Char)}

/-- What stands in none of the fields and is not the separator does not stand in the text. -/
theorem not_mem_intercalate {c : Char} (hsep : c ≠ sep) (h : ∀ field ∈ fields, c ∉ field) :
    c ∉ [sep].intercalate fields := by
  induction fields with
  | nil => exact List.not_mem_nil
  | cons field fields ih =>
    obtain ⟨hfield, hrest⟩ := List.forall_mem_cons.mp h
    by_cases hnil : fields = []
    · rwa [hnil, List.intercalate_singleton]
    · rw [List.intercalate_cons_of_ne_nil hnil]
      simp [hfield, hsep, ih hrest]

/-- A field has no separator in it, and nothing that is not in the text. -/
theorem mem_of_mem_splitOn {field : List Char} (h : field ∈ cs.splitOn sep) :
    ∀ c ∈ field, c ∈ cs ∧ c ≠ sep := by
  induction cs generalizing field with
  | nil =>
    rw [List.splitOn_nil, List.mem_singleton] at h
    rw [h]
    exact List.forall_mem_nil _
  | cons d cs ih =>
    have hmore : ∀ field ∈ cs.splitOn sep, ∀ c ∈ field, c ∈ d :: cs ∧ c ≠ sep :=
      fun field hfield c hc => (ih hfield c hc).imp_left (List.mem_cons_of_mem d)
    obtain ⟨first, rest, hsplit⟩ := List.exists_cons_of_ne_nil (List.splitOn_ne_nil sep cs)
    rw [List.splitOn_cons_eq_if_modifyHead] at h
    rw [hsplit] at h hmore
    obtain ⟨hfirst, hrest⟩ := List.forall_mem_cons.mp hmore
    split at h
    · rcases List.mem_cons.mp h with rfl | h
      · exact List.forall_mem_nil _
      · exact hmore field h
    · next hd =>
      have hne : d ≠ sep := fun heq => hd (beq_iff_eq.mpr heq)
      rcases List.mem_cons.mp h with rfl | h
      · exact List.forall_mem_cons.mpr ⟨⟨List.mem_cons_self .., hne⟩, hfirst⟩
      · exact hrest field h

/-- Between two fields there is a separator. -/
theorem sep_mem_intercalate (h : 2 ≤ fields.length) : sep ∈ [sep].intercalate fields := by
  obtain ⟨first, second, rest, rfl⟩ : ∃ first second rest, fields = first :: second :: rest := by
    match fields, h with
    | first :: second :: rest, _ => exact ⟨first, second, rest, rfl⟩
  rw [List.intercalate_cons_cons]
  simp

theorem intercalate_concat (hfields : fields ≠ []) (last : List Char) :
    [sep].intercalate (fields ++ [last]) = [sep].intercalate fields ++ [sep] ++ last := by
  induction fields with
  | nil => exact absurd rfl hfields
  | cons field fields ih =>
    by_cases hnil : fields = []
    · rw [hnil, List.singleton_append, List.intercalate_cons_cons, List.intercalate_singleton,
        List.intercalate_singleton]
    · have hmore : fields ++ [last] ≠ [] := List.append_ne_nil_of_left_ne_nil hnil _
      rw [List.cons_append, List.intercalate_cons_of_ne_nil hmore, ih hnil,
        List.intercalate_cons_of_ne_nil hnil]
      simp only [List.append_assoc]

/-- A text that starts with a field starts as the field does, or with a separator. -/
theorem head?_intercalate (sep : Char) (first : List Char) (rest : List (List Char)) :
    ([sep].intercalate (first :: rest)).head? =
      if rest = [] then first.head? else first.head?.or (some sep) := by
  by_cases hrest : rest = []
  · rw [if_pos hrest, hrest, List.intercalate_singleton]
  · rw [if_neg hrest, List.intercalate_cons_of_ne_nil hrest, List.append_assoc, List.head?_append]
    rfl

/-- A text that ends with a field ends as the field does, or with a separator. -/
theorem getLast?_intercalate (sep : Char) (front : List (List Char)) (last : List Char) :
    ([sep].intercalate (front ++ [last])).getLast? =
      if front = [] then last.getLast? else last.getLast?.or (some sep) := by
  by_cases hfront : front = []
  · rw [if_pos hfront, hfront, List.nil_append, List.intercalate_singleton]
  · rw [if_neg hfront, intercalate_concat hfront, List.getLast?_append, List.getLast?_append]
    rfl

/-! ## Doubled separators -/

/-- A text whose fields are not empty has no two separators in a row, and does not end in one. -/
theorem cutAtDouble_eq_none (h : [] ∉ cs.splitOn sep) :
    cutAtDouble sep cs = none ∧ cs.getLast? ≠ some sep := by
  constructor
  · cases hcut : cutAtDouble sep cs with
    | none => rfl
    | some parts =>
      obtain ⟨before, after⟩ := parts
      rw [eq_append_of_cutAtDouble hcut, List.splitOn_append_cons_self] at h
      have hempty : ([] : List Char) ∈ (sep :: after).splitOn sep := by
        simp [List.splitOn_cons_eq_if_modifyHead]
      exact absurd (List.mem_append_right _ hempty) h
  · intro hlast
    obtain ⟨before, rfl⟩ := List.getLast?_eq_some_iff.mp hlast
    rw [List.splitOn_append_cons_self, List.splitOn_nil] at h
    exact h (List.mem_append_right _ (List.mem_singleton_self _))

/-- Between fields that are not empty there is no doubled separator. -/
theorem cutAtDouble_intercalate (h : ∀ field ∈ fields, field ≠ [] ∧ sep ∉ field) :
    cutAtDouble sep ([sep].intercalate fields) = none ∧
      ([sep].intercalate fields).getLast? ≠ some sep := by
  by_cases hnil : fields = []
  · rw [hnil]
    exact ⟨rfl, nofun⟩
  · refine cutAtDouble_eq_none ?_
    rw [List.splitOn_intercalate sep (fun field hfield => (h field hfield).2) hnil]
    exact fun hmem => (h [] hmem).1 rfl

/-- The first two separators in a row are found. -/
theorem cutAtDouble_append {before : List Char} (after : List Char)
    (h : cutAtDouble sep before = none) (hlast : before.getLast? ≠ some sep) :
    cutAtDouble sep (before ++ sep :: sep :: after) = some (before, after) := by
  induction before with
  | nil => simp [cutAtDouble]
  | cons c before ih =>
    cases before with
    | nil =>
      have hc : c ≠ sep := fun heq => hlast (by rw [heq]; rfl)
      simp [cutAtDouble, hc]
    | cons d before =>
      rw [cutAtDouble] at h
      rw [List.getLast?_cons_cons] at hlast
      split at h
      · cases h
      · next hne =>
        have hrest := ih (Option.map_eq_none_iff.mp h) hlast
        rw [List.cons_append] at hrest
        rw [List.cons_append, List.cons_append, cutAtDouble, if_neg hne, hrest]
        rfl

end Text

end SenderPolicy
