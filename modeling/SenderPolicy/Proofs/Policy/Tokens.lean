import Mathlib.Data.List.Nodup
import Mathlib.Data.Option.Basic
import SenderPolicy.Policy.Term

/-!
# How tokens are read

A token is tried as a keyword with a value, then as a term that it is as a whole, then as an `a` or
`mx`.  `Term.Reads` names these three ways by what stands in the token, and `ofChars_eq_iff` says
that the classifier finds exactly them.

The order in which the ways are tried does not matter, because no token can be read in two of them.
Two things are behind that, both about the few words that there are: no keyword is the beginning of
another word (`keyword_free`), and where `a` is the beginning of a word, it is followed by an `l`,
which cannot follow the name of an `a` (`follows_leader`).

So what is claimed about the reading of tokens is a case analysis of `Reads`.
-/

namespace SenderPolicy

/-- The letters that name the mechanism. -/
def HostKind.letters : HostKind → List Char
  | .a => ['a']
  | .mx => ['m', 'x']

namespace Term

/-- A way to read the letters as the term. -/
inductive Reads (cs : List Char) : Term → Prop where
  /-- A keyword in any case, and behind it the value. -/
  | keyword {keyword : String} {make : String → Term} {head value : List Char}
      (hmem : (keyword, make) ∈ keywords) (hcs : cs = head ++ value)
      (hhead : head.map Char.toLower = keyword.toList) : Reads cs (make (String.ofList value))
  /-- One of the terms that a token is as a whole, in any case. -/
  | whole {spelling : String} {term : Term} (hmem : (spelling, term) ∈ fixed)
      (hcs : cs.map Char.toLower = spelling.toList) : Reads cs term
  /-- The name of an `a` or `mx` in any case, perhaps behind a `+`, and what can follow it. -/
  | host {kind : HostKind} {qualifier name rest value : List Char}
      (hcs : cs = qualifier ++ name ++ rest) (hqualifier : qualifier = [] ∨ qualifier = ['+'])
      (hname : name.map Char.toLower = kind.letters) (hvalue : hostValue? rest = some value) :
      Reads cs (ofHostValue kind value)

variable {cs : List Char} {term : Term}

/-- A name is followed by a colon and the value, or the value is all that follows it; then it is a
mask, or nothing. -/
theorem hostValue?_eq_some_iff {rest value : List Char} :
    hostValue? rest = some value ↔
      rest = ':' :: value ∨ rest = value ∧ (value = [] ∨ value.head? = some '/') := by
  rw [hostValue?.eq_def]
  constructor
  · intro h
    split at h
    · cases h
      exact Or.inr ⟨rfl, Or.inl rfl⟩
    · cases h
      exact Or.inl rfl
    · cases h
      exact Or.inr ⟨rfl, Or.inr rfl⟩
    · cases h
  · rintro (rfl | ⟨rfl, rfl | hslash⟩)
    · rfl
    · rfl
    · obtain ⟨mask, rfl⟩ := List.head?_eq_some_iff.mp hslash
      rfl

/-! ## What is found is there -/

theorem reads_of_keyword? (h : keyword? cs = some term) : Reads cs term := by
  obtain ⟨⟨keyword, make⟩, hmem, hvalue⟩ := List.exists_of_findSome?_eq_some h
  obtain ⟨value, hafter, rfl⟩ := Option.map_eq_some_iff.mp hvalue
  obtain ⟨head, hcs, hhead⟩ := Text.afterKeyword?_eq_some_iff.mp hafter
  exact .keyword hmem hcs hhead

theorem reads_of_fixed? (h : fixed? cs = some term) : Reads cs term := by
  obtain ⟨⟨spelling, found⟩, hmem, hfixed⟩ := List.exists_of_findSome?_eq_some h
  dsimp only at hfixed
  split at hfixed
  · next hcs =>
    obtain rfl := Option.some.inj hfixed
    exact .whole hmem hcs
  · cases hfixed

theorem exists_of_unqualifiedHost? (h : unqualifiedHost? cs = some term) :
    ∃ (kind : HostKind) (name rest value : List Char), cs = name ++ rest ∧
      name.map Char.toLower = kind.letters ∧ hostValue? rest = some value ∧
      term = ofHostValue kind value := by
  have hkind : ∃ (kind : HostKind) (rest value : List Char),
      Text.afterKeyword? kind.letters cs = some rest ∧ hostValue? rest = some value ∧
        ofHostValue kind value = term := by
    rcases (Option.orElse_eq_some ..).mp h with ha | ⟨-, hmx⟩
    · obtain ⟨value, hvalue, hterm⟩ := Option.map_eq_some_iff.mp ha
      obtain ⟨rest, hrest, hvalue⟩ := Option.bind_eq_some_iff.mp hvalue
      exact ⟨.a, rest, value, hrest, hvalue, hterm⟩
    · obtain ⟨value, hvalue, hterm⟩ := Option.map_eq_some_iff.mp hmx
      obtain ⟨rest, hrest, hvalue⟩ := Option.bind_eq_some_iff.mp hvalue
      exact ⟨.mx, rest, value, hrest, hvalue, hterm⟩
  obtain ⟨kind, rest, value, hafter, hvalue, rfl⟩ := hkind
  obtain ⟨name, hcs, hname⟩ := Text.afterKeyword?_eq_some_iff.mp hafter
  exact ⟨kind, name, rest, value, hcs, hname, hvalue, rfl⟩

theorem reads_of_host? (h : host? cs = some term) : Reads cs term := by
  rw [host?.eq_def] at h
  split at h
  · next cs =>
    obtain ⟨kind, name, rest, value, rfl, hname, hvalue, rfl⟩ := exists_of_unqualifiedHost? h
    exact @Reads.host _ kind ['+'] name rest value rfl (Or.inr rfl) hname hvalue
  · obtain ⟨kind, name, rest, value, rfl, hname, hvalue, rfl⟩ := exists_of_unqualifiedHost? h
    exact @Reads.host _ kind [] name rest value rfl (Or.inl rfl) hname hvalue

theorem reads_of_ofChars (h : ofChars cs = term) (hknown : term ≠ unknown) : Reads cs term := by
  rw [ofChars, Option.getD_eq_iff] at h
  rcases h with h | ⟨-, hunknown⟩
  · rcases (Option.orElse_eq_some ..).mp h with hkeyword | ⟨-, h⟩
    · exact reads_of_keyword? hkeyword
    · rcases (Option.orElse_eq_some ..).mp h with hfixed | ⟨-, hhost⟩
      · exact reads_of_fixed? hfixed
      · exact reads_of_host? hhost
  · exact absurd hunknown.symm hknown

/-! ## What is there is found -/

/-- What stands in front of what can follow the name of an `a` or `mx`. -/
def hostLeaders : List (List Char) := [['a'], ['+', 'a'], ['m', 'x'], ['+', 'm', 'x']]

/-- No keyword is the beginning of another word, and no other word is the beginning of a
keyword. -/
theorem keyword_free : ∀ keyword ∈ keywords.map Prod.fst,
    (∀ other ∈ keywords.map Prod.fst, keyword.toList <+: other.toList → keyword = other) ∧
      (∀ spelling ∈ fixed.map Prod.fst, ¬keyword.toList <+: spelling.toList) ∧
      ∀ leader ∈ hostLeaders, ¬keyword.toList <+: leader ∧ ¬leader <+: keyword.toList := by
  decide

/-- The words that begin like an `a` go on with a letter. -/
theorem follows_leader : ∀ spelling ∈ fixed.map Prod.fst, ∀ leader ∈ hostLeaders,
    leader <+: spelling.toList → (spelling.toList.drop leader.length).head? = some 'l' := by
  decide

theorem mem_hostLeaders {kind : HostKind} {qualifier name : List Char}
    (hqualifier : qualifier = [] ∨ qualifier = ['+'])
    (hname : name.map Char.toLower = kind.letters) :
    (qualifier ++ name).map Char.toLower ∈ hostLeaders := by
  rw [List.map_append, hname]
  rcases hqualifier with rfl | rfl <;> cases kind <;> decide

/-- Only what begins with a keyword has one. -/
theorem keyword?_eq_none (h : ∀ keyword ∈ keywords.map Prod.fst,
    ¬keyword.toList <+: cs.map Char.toLower) : keyword? cs = none := by
  rw [keyword?, List.findSome?_eq_none_iff]
  rintro ⟨keyword, make⟩ hmem
  rw [Option.map_eq_none_iff, Option.eq_none_iff_forall_ne_some]
  intro value hvalue
  obtain ⟨head, rfl, hhead⟩ := Text.afterKeyword?_eq_some_iff.mp hvalue
  refine h keyword (List.mem_map_of_mem hmem) ⟨value.map Char.toLower, ?_⟩
  rw [List.map_append, hhead]

/-- A row of attempts comes to what one of them comes to, if no other comes to anything else. -/
theorem findSome?_eq_some_of_unique {α β : Type} {f : α → Option β} {as : List α} {a : α} {b : β}
    (hmem : a ∈ as) (ha : f a = some b) (hunique : ∀ a' ∈ as, ∀ b', f a' = some b' → b' = b) :
    as.findSome? f = some b := by
  cases h : as.findSome? f with
  | none =>
    rw [List.findSome?_eq_none_iff.mp h a hmem] at ha
    cases ha
  | some b' =>
    obtain ⟨a', hmem', ha'⟩ := List.exists_of_findSome?_eq_some h
    rw [hunique a' hmem' b' ha']

theorem keyword?_append {keyword : String} {make : String → Term} {head : List Char}
    (value : List Char) (hmem : (keyword, make) ∈ keywords)
    (hhead : head.map Char.toLower = keyword.toList) :
    keyword? (head ++ value) = some (make (String.ofList value)) := by
  refine findSome?_eq_some_of_unique hmem ?_ ?_
  · dsimp only
    rw [Text.afterKeyword?_eq_some_iff.mpr ⟨head, rfl, hhead⟩]
    rfl
  · rintro ⟨keyword', make'⟩ hmem' term hterm
    obtain ⟨value', hafter, rfl⟩ := Option.map_eq_some_iff.mp hterm
    obtain ⟨head', hcs, hhead'⟩ := Text.afterKeyword?_eq_some_iff.mp hafter
    -- both keywords are beginnings of the token, so one of them is a beginning of the other
    have hkeys : keyword' = keyword := by
      have hlower := congrArg (List.map Char.toLower) hcs
      rw [List.map_append, List.map_append, hhead, hhead'] at hlower
      rcases List.prefix_or_prefix_of_prefix ⟨_, hlower⟩ ⟨_, rfl⟩ with hprefix | hprefix
      · exact ((keyword_free _ (List.mem_map_of_mem hmem)).1 _ (List.mem_map_of_mem hmem')
          hprefix).symm
      · exact (keyword_free _ (List.mem_map_of_mem hmem')).1 _ (List.mem_map_of_mem hmem) hprefix
    have hnodup : (keywords.map Prod.fst).Nodup := by decide
    have hpair := List.inj_on_of_nodup_map hnodup hmem' hmem hkeys
    have hlength : head'.length = head.length := by
      rw [← List.length_map (f := Char.toLower), hhead', hkeys, ← hhead, List.length_map]
    rw [(Prod.mk.inj hpair).2, (List.append_inj hcs hlength.symm).2]

theorem fixed?_eq_some {spelling : String} (hmem : (spelling, term) ∈ fixed)
    (hcs : cs.map Char.toLower = spelling.toList) : fixed? cs = some term := by
  refine findSome?_eq_some_of_unique hmem (if_pos hcs) ?_
  rintro ⟨spelling', term'⟩ hmem' found hfound
  dsimp only at hfound
  split at hfound
  · next hcs' =>
    have hnodup : (fixed.map Prod.fst).Nodup := by decide
    have hspelling : spelling' = spelling := String.toList_inj.mp (hcs'.symm.trans hcs)
    have hpair := List.inj_on_of_nodup_map hnodup hmem' hmem hspelling
    exact (Option.some.inj hfound).symm.trans (Prod.mk.inj hpair).2
  · cases hfound

theorem unqualifiedHost?_append {kind : HostKind} {name rest value : List Char}
    (hname : name.map Char.toLower = kind.letters) (hvalue : hostValue? rest = some value) :
    unqualifiedHost? (name ++ rest) = some (ofHostValue kind value) := by
  have hafter : Text.afterKeyword? kind.letters (name ++ rest) = some rest :=
    Text.afterKeyword?_eq_some_iff.mpr ⟨name, rfl, hname⟩
  cases kind with
  | a =>
    have ha : Text.afterKeyword? ['a'] (name ++ rest) = some rest := hafter
    rw [unqualifiedHost?, ha, Option.bind_some, hvalue]
    rfl
  | mx =>
    have hmx : Text.afterKeyword? ['m', 'x'] (name ++ rest) = some rest := hafter
    have ha : Text.afterKeyword? ['a'] (name ++ rest) = none := by
      cases name with
      | nil => cases hname
      | cons c name =>
        have hc : c.toLower = 'm' := (List.cons.inj hname).1
        rw [List.cons_append, Text.afterKeyword?, hc, if_neg (by decide)]
    rw [unqualifiedHost?, ha, hmx, Option.bind_some, hvalue]
    rfl

theorem host?_append {kind : HostKind} {qualifier name rest value : List Char}
    (hqualifier : qualifier = [] ∨ qualifier = ['+'])
    (hname : name.map Char.toLower = kind.letters) (hvalue : hostValue? rest = some value) :
    host? (qualifier ++ name ++ rest) = some (ofHostValue kind value) := by
  rw [← unqualifiedHost?_append hname hvalue]
  rcases hqualifier with rfl | rfl
  · rw [List.nil_append, host?.eq_def]
    split
    · next cs hplus =>
      -- the name does not begin with a plus
      cases name with
      | nil => cases kind <;> cases hname
      | cons c name =>
        obtain rfl : c = '+' := (List.cons.inj hplus).1
        cases kind <;> cases hname
    · rfl
  · rfl

theorem fixed?_eq_none_of_host {kind : HostKind} {qualifier name rest value : List Char}
    (hqualifier : qualifier = [] ∨ qualifier = ['+'])
    (hname : name.map Char.toLower = kind.letters) (hvalue : hostValue? rest = some value) :
    fixed? (qualifier ++ name ++ rest) = none := by
  rw [fixed?, List.findSome?_eq_none_iff]
  rintro ⟨spelling, term⟩ hmem
  refine if_neg fun hcs => ?_
  rw [List.map_append] at hcs
  have hl := follows_leader spelling (List.mem_map_of_mem hmem) _ (mem_hostLeaders hqualifier hname)
    ⟨_, hcs⟩
  rw [← hcs, List.drop_left] at hl
  rcases hostValue?_eq_some_iff.mp hvalue with rfl | ⟨rfl, rfl | hslash⟩
  · cases hl
  · cases hl
  · obtain ⟨mask, rfl⟩ := List.head?_eq_some_iff.mp hslash
    cases hl

theorem ofChars_of_reads (h : Reads cs term) : ofChars cs = term := by
  cases h with
  | keyword hmem hcs hhead =>
    rw [ofChars, hcs, keyword?_append _ hmem hhead]
    rfl
  | whole hmem hcs =>
    have hnone : keyword? cs = none := keyword?_eq_none fun keyword hkeyword => by
      rw [hcs]
      exact (keyword_free keyword hkeyword).2.1 _ (List.mem_map_of_mem hmem)
    rw [ofChars, hnone, fixed?_eq_some hmem hcs]
    rfl
  | @host kind qualifier name rest value hcs hqualifier hname hvalue =>
    subst hcs
    have hnone : keyword? (qualifier ++ name ++ rest) = none := by
      refine keyword?_eq_none fun keyword hkeyword hprefix => ?_
      have hfree := (keyword_free keyword hkeyword).2.2 _ (mem_hostLeaders hqualifier hname)
      rw [List.map_append] at hprefix
      rcases List.prefix_or_prefix_of_prefix hprefix ⟨_, rfl⟩ with hbefore | hbehind
      · exact hfree.1 hbefore
      · exact hfree.2 hbehind
    rw [ofChars, hnone, fixed?_eq_none_of_host hqualifier hname hvalue,
      host?_append hqualifier hname hvalue]
    rfl

/-! ## The classifier -/

theorem Reads.ne_unknown (h : Reads cs term) : term ≠ unknown := by
  cases h with
  | keyword hmem =>
    have hknown : ∀ pair ∈ keywords, ∀ value, pair.2 value ≠ unknown := by simp [keywords]
    exact hknown _ hmem _
  | whole hmem =>
    have hknown : ∀ pair ∈ fixed, pair.2 ≠ unknown := by decide
    exact hknown _ hmem
  | host => exact nofun

/-- A token is the term that it can be read as, if there is one. -/
theorem ofChars_eq_iff (hknown : term ≠ unknown) : ofChars cs = term ↔ Reads cs term :=
  ⟨fun h => reads_of_ofChars h hknown, ofChars_of_reads⟩

/-- Where there is no way to read a token, it is nothing in particular. -/
theorem ofChars_eq_unknown_iff : ofChars cs = unknown ↔ ∀ term, ¬Reads cs term := by
  constructor
  · intro h term hreads
    rw [ofChars_of_reads hreads] at h
    exact hreads.ne_unknown h
  · intro h
    by_contra hknown
    exact h _ (reads_of_ofChars rfl hknown)

end Term

end SenderPolicy
