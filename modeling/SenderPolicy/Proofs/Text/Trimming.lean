import SenderPolicy.Text.Blank

/-!
# What trimming leaves

Trimming takes the blanks in front of a text and those behind it.  `IsTrimmed` says what is left
without saying how it is found, and there is only one such text.

* `trimBlanks_eq_self_iff`: a text is left alone exactly if there is no blank at an end of it.
* `trimBlanks_eq_iff`: trimming finds what is left.  So it makes no difference how often a text is
  trimmed (`trim_trim`).
* `mem_trimBlanks_iff`: nothing but blanks is lost.
-/

namespace SenderPolicy.Text

/-- What is left of a text without the blanks around it. -/
structure IsTrimmed (cs core : List Char) : Prop where
  exists_blanks : ∃ before after, cs = before ++ core ++ after ∧
    (∀ c ∈ before, isBlank c = true) ∧ ∀ c ∈ after, isBlank c = true
  head : ∀ c, core.head? = some c → isBlank c = false
  last : ∀ c, core.getLast? = some c → isBlank c = false

variable {p : Char → Bool} {before core after cs : List Char}

/-! ## One end -/

theorem exists_eq_dropTrailing_append (p : Char → Bool) (cs : List Char) :
    ∃ after, cs = dropTrailing p cs ++ after ∧ ∀ c ∈ after, p c = true := by
  refine ⟨(cs.reverse.takeWhile p).reverse, ?_, fun c hc => ?_⟩
  · rw [dropTrailing, ← List.reverse_append, List.takeWhile_append_dropWhile, List.reverse_reverse]
  · exact List.all_eq_true.mp List.all_takeWhile c (List.mem_reverse.mp hc)

theorem dropTrailing_isPrefix (p : Char → Bool) (cs : List Char) : dropTrailing p cs <+: cs := by
  obtain ⟨after, heq, -⟩ := exists_eq_dropTrailing_append p cs
  exact ⟨after, heq.symm⟩

theorem dropTrailing_append (hafter : ∀ c ∈ after, p c = true) :
    dropTrailing p (cs ++ after) = dropTrailing p cs := by
  have hreverse : ∀ c ∈ after.reverse, p c = true := fun c hc => hafter c (List.mem_reverse.mp hc)
  rw [dropTrailing, List.reverse_append, List.dropWhile_append_of_pos hreverse, dropTrailing]

/-! ## Both ends -/

theorem isTrimmed_trimBlanks (cs : List Char) : IsTrimmed cs (trimBlanks cs) := by
  obtain ⟨after, heq, hafter⟩ := exists_eq_dropTrailing_append isBlank (cs.dropWhile isBlank)
  rw [← trimBlanks] at heq
  refine ⟨⟨cs.takeWhile isBlank, after, ?_, List.all_eq_true.mp List.all_takeWhile, hafter⟩,
    fun c hc => ?_, fun c hc => getLast?_dropTrailing hc⟩
  · rw [List.append_assoc, ← heq, List.takeWhile_append_dropWhile]
  · have hnot := List.head?_dropWhile_not isBlank cs
    rw [heq, List.head?_append, hc] at hnot
    simpa using hnot

/-- A text is left alone exactly if there is no blank at an end of it. -/
theorem trimBlanks_eq_self_iff : trimBlanks cs = cs ↔
    (∀ c, cs.head? = some c → isBlank c = false) ∧
      ∀ c, cs.getLast? = some c → isBlank c = false := by
  constructor
  · intro h
    have htrimmed := isTrimmed_trimBlanks cs
    rw [h] at htrimmed
    exact ⟨htrimmed.head, htrimmed.last⟩
  · rintro ⟨hhead, hlast⟩
    have hfront : cs.dropWhile isBlank = cs := by
      cases cs with
      | nil => rfl
      | cons c cs => simp [hhead c rfl]
    rw [trimBlanks, hfront]
    exact dropTrailing_eq_self hlast

/-- A text without blanks is left alone. -/
theorem trimBlanks_eq_self (h : ∀ c ∈ cs, isBlank c = false) : trimBlanks cs = cs :=
  trimBlanks_eq_self_iff.mpr
    ⟨fun c hc => h c (List.mem_of_head? hc), fun c hc => h c (List.mem_of_getLast? hc)⟩

theorem trimBlanks_trimBlanks (cs : List Char) : trimBlanks (trimBlanks cs) = trimBlanks cs := by
  have htrimmed := isTrimmed_trimBlanks cs
  exact trimBlanks_eq_self_iff.mpr ⟨htrimmed.head, htrimmed.last⟩

/-- Blanks around a text are of no consequence. -/
theorem trimBlanks_append (hbefore : ∀ c ∈ before, isBlank c = true)
    (hafter : ∀ c ∈ after, isBlank c = true) :
    trimBlanks (before ++ core ++ after) = trimBlanks core := by
  rw [trimBlanks, List.append_assoc, List.dropWhile_append_of_pos hbefore, List.dropWhile_append]
  split
  · next hempty =>
    have hcore : core.dropWhile isBlank = [] := List.isEmpty_iff.mp hempty
    have hnothing : after.dropWhile isBlank = [] := by
      rw [← List.append_nil after, List.dropWhile_append_of_pos hafter, List.dropWhile_nil]
    rw [trimBlanks, hcore, hnothing]
  · exact dropTrailing_append hafter

/-- Trimming finds the one text that is left. -/
theorem trimBlanks_eq_iff : trimBlanks cs = core ↔ IsTrimmed cs core := by
  constructor
  · rintro rfl
    exact isTrimmed_trimBlanks cs
  · rintro ⟨⟨before, after, rfl, hbefore, hafter⟩, hhead, hlast⟩
    rw [trimBlanks_append hbefore hafter, trimBlanks_eq_self_iff]
    exact ⟨hhead, hlast⟩

/-- Trimming takes blanks only. -/
theorem mem_trimBlanks_iff {c : Char} (hc : isBlank c = false) : c ∈ trimBlanks cs ↔ c ∈ cs := by
  obtain ⟨before, after, heq, hbefore, hafter⟩ := (isTrimmed_trimBlanks cs).exists_blanks
  have hfront : c ∉ before := fun hmem => by simp [hbefore c hmem] at hc
  have hback : c ∉ after := fun hmem => by simp [hafter c hmem] at hc
  constructor
  · intro h
    rw [heq]
    simp [h]
  · intro h
    rw [heq] at h
    simpa [hfront, hback] using h

/-! ## Strings -/

@[simp] theorem toList_trim (s : String) : (trim s).toList = trimBlanks s.toList :=
  String.toList_ofList

@[simp] theorem trim_trim (s : String) : trim (trim s) = trim s := by
  rw [trim, toList_trim, trimBlanks_trimBlanks, trim]

end SenderPolicy.Text
