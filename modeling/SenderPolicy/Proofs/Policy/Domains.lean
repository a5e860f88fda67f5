import SenderPolicy.Proofs.Expansion.Inquiries
import SenderPolicy.Proofs.Expansion.Preorder
import SenderPolicy.Proofs.Idna.Ascii

/-!
# One spelling for a domain

A domain is trimmed, loses the dots that end it, and is put into ASCII, each once and in this order.
Each step can leave work for one that has been done: behind the last dot a blank comes to light,
and the mapping can make a blank, a dot or nothing at all of a character at an end.  Then the name
that is asked for is not the name that a second normalization gives.

Where that does not happen there is one spelling, and everybody uses it (`SpeltOnce`): it is asked
for, it stands in the records, it is remembered, and normalizing it again changes nothing.

* `Text.bare_iff`: a name without anything to trim at its ends is one that trimming leaves alone.
* `bare_iff_plainEnds`: whether the name in ASCII has something to trim is seen from the labels at
  the ends of the mapped text.
* `normalizes`: that decides whether there is one spelling.  A domain in ASCII has one exactly if
  there is no blank in front of the dots that end it.

That the ASCII form of a name in ASCII form is that form again is a fact about the tables; it is
asked for where it is needed, of the one name at hand, and known for domains in ASCII.
-/

namespace SenderPolicy

/-! ## The ends of a text -/

namespace Text

/-- There is something, no blank at an end of it, and no dot that ends it. -/
structure Bare (cs : List Char) : Prop where
  ne_nil : cs ≠ []
  head : ∀ c, cs.head? = some c → isBlank c = false
  last : ∀ c, cs.getLast? = some c → isBlank c = false ∧ c ≠ '.'

/-- What is left of a domain before it is put into ASCII. -/
def strip (cs : List Char) : List Char := dropRootDots (trimBlanks cs)

/-- Dots go behind the last blank, and the last blank behind the first. -/
theorem strip_prefix_dropWhile (cs : List Char) : strip cs <+: cs.dropWhile isBlank :=
  (dropTrailing_isPrefix _ _).trans (dropTrailing_isPrefix _ _)

theorem strip_sublist (cs : List Char) : (strip cs).Sublist cs :=
  (strip_prefix_dropWhile cs).sublist.trans (List.dropWhile_sublist _)

/-- Nothing is to be trimmed off a text exactly if trimming leaves it alone. -/
theorem bare_iff {cs : List Char} : Bare cs ↔ cs ≠ [] ∧ strip cs = cs := by
  constructor
  · intro h
    have htrim : trimBlanks cs = cs :=
      trimBlanks_eq_self_iff.mpr ⟨h.head, fun c hc => (h.last c hc).1⟩
    refine ⟨h.ne_nil, ?_⟩
    rw [strip, htrim]
    exact dropTrailing_eq_self fun c hc => by simpa using (h.last c hc).2
  · rintro ⟨hne, hstrip⟩
    -- The text is a part of itself without blanks, which is a part of the text.
    have hall : cs.Sublist (trimBlanks cs) := by
      have hdots := (dropTrailing_isPrefix (· == '.') (trimBlanks cs)).sublist
      rwa [← dropRootDots, ← strip, hstrip] at hdots
    have hblanks : (trimBlanks cs).Sublist cs :=
      (dropTrailing_isPrefix _ _).sublist.trans (List.dropWhile_sublist _)
    obtain ⟨hhead, hlast⟩ := trimBlanks_eq_self_iff.mp (hblanks.antisymm hall)
    refine ⟨hne, hhead, fun c hc => ⟨hlast c hc, ?_⟩⟩
    rw [← hstrip] at hc
    have hdot := getLast?_dropTrailing (p := (· == '.')) hc
    simpa using hdot

/-- Of what is needed for that, stripping leaves only one thing open. -/
theorem bare_strip_iff {cs : List Char} (hne : strip cs ≠ []) :
    Bare (strip cs) ↔ ∀ c, (strip cs).getLast? = some c → isBlank c = false := by
  constructor
  · exact fun h c hc => (h.last c hc).1
  · intro h
    refine ⟨hne, fun c hc => ?_, fun c hc => ⟨h c hc, ?_⟩⟩
    · obtain ⟨behind, hbehind⟩ := strip_prefix_dropWhile cs
      have hnot := List.head?_dropWhile_not isBlank cs
      rw [← hbehind, List.head?_append, hc] at hnot
      simpa using hnot
    · have hdot := getLast?_dropTrailing (p := (· == '.')) hc
      simpa using hdot

theorem isBlank_toLower (c : Char) : isBlank c.toLower = isBlank c := by
  cases h : c.isUpper with
  | true =>
    exact of_toNat_le (motive := fun c => isBlank c.toLower = isBlank c) (by decide)
      (isUpper_iff.mp h)
  | false => rw [toLower_eq_self h]

theorem bare_map_toLower {cs : List Char} : Bare (cs.map Char.toLower) ↔ Bare cs := by
  have hdot : ∀ c : Char, c.toLower = '.' ↔ c = '.' := fun c => toLower_eq_iff rfl
  constructor
  · intro h
    refine ⟨fun hnil => h.ne_nil (by rw [hnil, List.map_nil]), fun c hc => ?_, fun c hc => ?_⟩
    · rw [← isBlank_toLower]
      exact h.head _ (by rw [List.head?_map, hc, Option.map_some])
    · rw [← isBlank_toLower, ← hdot c |>.ne]
      exact h.last _ (by rw [List.getLast?_map, hc, Option.map_some])
  · intro h
    refine ⟨fun hnil => h.ne_nil (List.map_eq_nil_iff.mp hnil), fun d hd => ?_, fun d hd => ?_⟩
    · rw [List.head?_map] at hd
      obtain ⟨c, hc, rfl⟩ := Option.map_eq_some_iff.mp hd
      rw [isBlank_toLower]
      exact h.head c hc
    · rw [List.getLast?_map] at hd
      obtain ⟨c, hc, rfl⟩ := Option.map_eq_some_iff.mp hd
      rw [isBlank_toLower, ne_eq, hdot]
      exact h.last c hc

/-- The ends of a text that is put together are seen from the fields at its ends. -/
theorem bare_intercalate_iff {fields : List (List Char)} {first last : List Char}
    (hfirst : fields.head? = some first) (hlast : fields.getLast? = some last)
    (hdot : last.getLast? ≠ some '.') :
    Bare (['.'].intercalate fields) ↔
      (∀ c, first.head? = some c → isBlank c = false) ∧
        last ≠ [] ∧ ∀ c, last.getLast? = some c → isBlank c = false := by
  obtain ⟨rest, rfl⟩ := List.head?_eq_some_iff.mp hfirst
  obtain ⟨front, hfront⟩ := List.getLast?_eq_some_iff.mp hlast
  by_cases hrest : rest = []
  · subst hrest
    obtain rfl : first = last := Option.some.inj hlast
    rw [List.intercalate_singleton]
    constructor
    · exact fun h => ⟨h.head, h.ne_nil, fun c hc => (h.last c hc).1⟩
    · rintro ⟨hhead, hne, hend⟩
      exact ⟨hne, hhead, fun c hc => ⟨hend c hc, fun heq => hdot (heq ▸ hc)⟩⟩
  · have hmore : front ≠ [] := by
      rintro rfl
      exact hrest (List.cons.inj hfront).2
    have hhead := head?_intercalate '.' first rest
    have hend := getLast?_intercalate '.' front last
    rw [if_neg hrest] at hhead
    rw [if_neg hmore, ← hfront] at hend
    constructor
    · intro h
      refine ⟨fun c hc => h.head c ?_, ?_, fun c hc => (h.last c ?_).1⟩
      · rw [hhead, hc]
        rfl
      · rintro rfl
        exact (h.last '.' hend).2 rfl
      · rw [hend, hc]
        rfl
    · rintro ⟨hfree, hne, hplain⟩
      have hlast : last.getLast? = some (last.getLast hne) := List.getLast?_eq_some_getLast hne
      refine ⟨?_, fun c hc => ?_, fun c hc => ?_⟩
      · intro hnil
        rw [hnil, hlast] at hend
        cases hend
      · rw [hhead] at hc
        cases first with
        | nil =>
          obtain rfl := Option.some.inj hc
          rfl
        | cons d first => exact hfree c hc
      · rw [hend, hlast] at hc
        replace hc : last.getLast? = some c := hlast.trans hc
        exact ⟨hplain c hc, fun heq => hdot (heq ▸ hc)⟩

end Text

/-! ## The ends of a name -/

namespace Idna

/-- The labels at the ends of a mapped text leave nothing to trim: the last one is not empty, and
where they are taken as they are there is no blank at the outer end. -/
structure PlainEnds (labels : List (List Char)) : Prop where
  first : ∀ label, labels.head? = some label → label.all isAscii = true →
    ∀ c, label.head? = some c → Text.isBlank c = false
  last : ∀ label, labels.getLast? = some label → label ≠ [] ∧
    (label.all isAscii = true → ∀ c, label.getLast? = some c → Text.isBlank c = false)

namespace Label

variable {cs ascii : List Char}

/-- A marker is no blank. -/
theorem Spelt.head_iff (h : Spelt cs ascii) :
    (∀ c, ascii.head? = some c → Text.isBlank c = false) ↔
      (cs.all Idna.isAscii = true → ∀ c, cs.head? = some c → Text.isBlank c = false) := by
  cases h with
  | plain hcs => exact ⟨fun h _ => h, fun h => h hcs⟩
  | encoded hcs _ _ =>
    refine iff_of_true (fun c hc => ?_) fun hascii => ?_
    · obtain rfl := Option.some.inj hc
      rfl
    · rw [hcs] at hascii
      cases hascii

/-- Neither is a digit. -/
theorem Spelt.last_iff (h : Spelt cs ascii) :
    (ascii ≠ [] ∧ ∀ c, ascii.getLast? = some c → Text.isBlank c = false) ↔
      cs ≠ [] ∧
        (cs.all Idna.isAscii = true → ∀ c, cs.getLast? = some c → Text.isBlank c = false) := by
  cases h with
  | plain hcs => exact and_congr_right fun _ => ⟨fun h _ => h, fun h => h hcs⟩
  | encoded hcs _ hdigit =>
    refine iff_of_true ⟨by simp, fun c hc => ?_⟩ ⟨?_, fun hascii => ?_⟩
    · rw [List.getLast?_concat] at hc
      exact Option.some.inj hc ▸ hdigit.ne_dot.1
    · rintro rfl
      cases hcs
    · rw [hcs] at hascii
      cases hascii

theorem Spelt.getLast?_ne (h : Spelt cs ascii) (hdot : '.' ∉ cs) : ascii.getLast? ≠ some '.' := by
  cases h with
  | plain _ => exact fun hlast => hdot (List.mem_of_getLast? hlast)
  | encoded _ _ hdigit =>
    rw [List.getLast?_concat]
    exact fun heq => hdigit.ne_dot.2 (Option.some.inj heq)

end Label

/-- What stands at the ends of a name in ASCII is seen from the labels of the mapped text. -/
theorem bare_iff_plainEnds {cs name mapped : List Char} (h : toAscii? cs = some name)
    (hmapped : mapChars? cs = some mapped) :
    Text.Bare name ↔ PlainEnds ((compose mapped).splitOn '.') := by
  obtain ⟨_, labels, hmapped', hlabels, rfl⟩ := exists_spelt_of_toAscii? h
  obtain rfl := Option.some.inj (hmapped.symm.trans hmapped')
  have hne := List.splitOn_ne_nil '.' (compose mapped)
  have hdots : ∀ piece ∈ (compose mapped).splitOn '.', '.' ∉ piece :=
    fun piece hpiece hdot => (Text.mem_of_mem_splitOn hpiece '.' hdot).2 rfl
  generalize (compose mapped).splitOn '.' = pieces at hlabels hne hdots
  -- The two rows have their ends together.
  obtain ⟨first, ascii, hfirst, hascii, hhead⟩ : ∃ first ascii, pieces.head? = some first ∧
      labels.head? = some ascii ∧ Label.Spelt first ascii := by
    cases hlabels with
    | nil => exact absurd rfl hne
    | cons hspelt _ => exact ⟨_, _, rfl, rfl, hspelt⟩
  obtain ⟨last, ascii', hlast, hascii', hend⟩ : ∃ last ascii, pieces.getLast? = some last ∧
      labels.getLast? = some ascii ∧ Label.Spelt last ascii := by
    have hreverse := List.forall₂_reverse_iff.mpr hlabels
    rw [← List.reverse_ne_nil_iff] at hne
    rw [List.getLast?_eq_head?_reverse, List.getLast?_eq_head?_reverse]
    generalize pieces.reverse = back, labels.reverse = back' at hreverse hne
    cases hreverse with
    | nil => exact absurd rfl hne
    | cons hspelt _ => exact ⟨_, _, rfl, rfl, hspelt⟩
  have hdot := hend.getLast?_ne (hdots last (List.mem_of_getLast? hlast))
  rw [Text.bare_intercalate_iff hascii hascii' hdot, hhead.head_iff, hend.last_iff]
  constructor
  · rintro ⟨hfree, hplain⟩
    refine ⟨fun label hlabel => ?_, fun label hlabel => ?_⟩
    · obtain rfl := Option.some.inj (hfirst.symm.trans hlabel)
      exact hfree
    · obtain rfl := Option.some.inj (hlast.symm.trans hlabel)
      exact hplain
  · exact fun h => ⟨h.first first hfirst, h.last last hlast⟩

end Idna

/-! ## Normalizing twice -/

variable {domain spelling : String}

/-- What becomes of a domain: nothing is left of it, or what is left is no name, or it is. -/
theorem normalizeDomain_cases (domain : String) :
    (Text.strip domain.toList = [] ∧ normalizeDomain domain = .error .emptyDomain) ∨
      (Text.strip domain.toList ≠ [] ∧ Idna.toAscii? (Text.strip domain.toList) = none ∧
        normalizeDomain domain = .error .notADomain) ∨
      Text.strip domain.toList ≠ [] ∧
        ∃ ascii, Idna.toAscii? (Text.strip domain.toList) = some ascii ∧
          normalizeDomain domain = .ok (String.ofList ascii) := by
  have hstrip : Text.dropRootDots (Text.trimBlanks domain.toList) = Text.strip domain.toList := rfl
  rw [normalizeDomain, hstrip]
  cases Text.strip domain.toList with
  | nil => exact Or.inl ⟨rfl, rfl⟩
  | cons c cs =>
    have hne := List.cons_ne_nil c cs
    dsimp only
    cases Idna.toAscii? (c :: cs) with
    | none => exact Or.inr (Or.inl ⟨hne, rfl, rfl⟩)
    | some ascii => exact Or.inr (Or.inr ⟨hne, ascii, rfl, rfl⟩)

theorem normalizeDomain_eq_ok_iff :
    normalizeDomain domain = .ok spelling ↔
      Text.strip domain.toList ≠ [] ∧
        Idna.toAscii? (Text.strip domain.toList) = some spelling.toList := by
  rcases normalizeDomain_cases domain with ⟨hnil, h⟩ | ⟨-, hnone, h⟩ | ⟨hne, ascii, hascii, h⟩
  · simp [h, hnil]
  · simp [h, hnone]
  · rw [h, hascii, Except.ok.injEq, Option.some_inj]
    constructor
    · rintro rfl
      exact ⟨hne, (String.toList_ofList).symm⟩
    · rintro ⟨-, rfl⟩
      exact String.ofList_toList

theorem normalizeDomain_eq_error_iff {error : PolicyError} :
    normalizeDomain domain = .error error ↔
      (Text.strip domain.toList = [] ∧ error = .emptyDomain) ∨
        (Text.strip domain.toList ≠ [] ∧ Idna.toAscii? (Text.strip domain.toList) = none ∧
          error = .notADomain) := by
  rcases normalizeDomain_cases domain with ⟨hnil, h⟩ | ⟨hne, hnone, h⟩ | ⟨hne, ascii, hascii, h⟩
  · simp [h, hnil, eq_comm]
  · simp [h, hne, hnone, eq_comm]
  · simp [h, hne, hascii]

/-- Where a normalized domain is normalized to itself there was nothing to trim off it. -/
theorem bare_of_normalizeDomain_self (hascii : spelling.toList.all Idna.isAscii = true)
    (h : normalizeDomain spelling = .ok spelling) :
    Text.Bare spelling.toList ∧ Name.key spelling = spelling := by
  obtain ⟨hne, hname⟩ := normalizeDomain_eq_ok_iff.mp h
  have hsub := Text.strip_sublist spelling.toList
  have hstripped : (Text.strip spelling.toList).all Idna.isAscii = true := by
    rw [List.all_eq_true] at hascii ⊢
    exact fun c hc => hascii c (hsub.subset hc)
  -- Only the case of letters can have changed, so nothing has gone.
  have hlower := Idna.toAscii?_of_isAscii hstripped hname
  have hlength : (Text.strip spelling.toList).length = spelling.toList.length := by
    conv_rhs => rw [hlower, List.length_map]
  have hself := hsub.eq_of_length hlength
  refine ⟨Text.bare_iff.mpr ⟨hself ▸ hne, hself⟩, ?_⟩
  rw [Name.key, Name.keyChars]
  exact (congrArg String.ofList hlower.symm).trans String.ofList_toList

/-- A name that is its own ASCII form is normalized to itself exactly if there is nothing to trim
off it. -/
theorem normalizeDomain_self_iff (hagain : Idna.toAscii? spelling.toList = some spelling.toList) :
    normalizeDomain spelling = .ok spelling ↔ Text.Bare spelling.toList := by
  constructor
  · exact fun h => (bare_of_normalizeDomain_self (Idna.isAscii_of_toAscii? hagain) h).1
  · intro h
    obtain ⟨hne, hself⟩ := Text.bare_iff.mp h
    rw [normalizeDomain_eq_ok_iff, hself]
    exact ⟨hne, hagain⟩

/-! ## One spelling -/

/-- The domain has one spelling, and everybody uses it. -/
structure SpeltOnce (domain spelling : String) : Prop where
  /-- There is nothing to trim off it. -/
  bare : Text.Bare spelling.toList
  /-- Normalizing it changes nothing. -/
  again : normalizeDomain spelling = .ok spelling
  /-- It is what is remembered when its own text is followed. -/
  key : Name.key spelling = spelling
  /-- It is the first name that is asked for. -/
  asked : ∀ resolver options,
    (resolve resolver options domain).queries.head? = some ⟨spelling, .txt⟩
  /-- All records are records of it, and the first one is made of its own text. -/
  recorded : ∀ resolver options records,
    Expansion.IsResultFor resolver options domain records →
      (∀ record ∈ records, record.domain = spelling) ∧
        ∀ root, records.head? = some root → root.source = spelling ∧ root.depth = 0
  /-- A caller may put it in the place of the domain. -/
  alike : ∀ resolver options,
    resolve resolver options spelling = resolve resolver options domain ∧
      ∀ raw, parseRecord resolver options spelling raw = parseRecord resolver options domain raw

theorem head?_queries_resolve (h : normalizeDomain domain = .ok spelling) (resolver : Resolver)
    (options : ResolveOptions) :
    (resolve resolver options domain).queries.head? = some ⟨spelling, .txt⟩ := by
  have hasked : ((resolver.policyTexts spelling).mapError PolicyError.lookup).queries =
      [⟨spelling, .txt⟩] := Expansion.queries_policyTexts spelling
  rw [resolve, Traced.bind_of_ok (x := Traced.ofExcept (normalizeDomain domain)) h]
  show ([] ++ _ : List Query).head? = _
  rw [List.nil_append]
  cases htexts : ((resolver.policyTexts spelling).mapError PolicyError.lookup).outcome with
  | error failure => rw [Traced.bind_of_error htexts, hasked, List.head?_cons]
  | ok raws => rw [Traced.bind_of_ok htexts, hasked, List.singleton_append, List.head?_cons]

theorem domain_eq_of_isResultFor {resolver : Resolver} {options : ResolveOptions}
    {records : List PolicyRecord} (h : normalizeDomain domain = .ok spelling)
    (hresult : Expansion.IsResultFor resolver options domain records) :
    (∀ record ∈ records, record.domain = spelling) ∧
      ∀ root, records.head? = some root → root.source = spelling ∧ root.depth = 0 := by
  have htext : ∀ {ascii raw : String}, normalizeDomain domain = .ok ascii →
      (resolveText resolver options ascii raw).outcome = .ok records →
      (∀ record ∈ records, record.domain = spelling) ∧
        ∀ root, records.head? = some root → root.source = spelling ∧ root.depth = 0 := by
    intro ascii raw hascii htext
    obtain rfl := Except.ok.inj (h.symm.trans hascii)
    obtain ⟨first, below, hvisits, rfl, hfirst⟩ :=
      Expansion.exists_resolved_of_outcome_resolveText htext
    obtain ⟨hdepth, hsource⟩ := hvisits.site_head first rfl
    refine ⟨fun record hrecord => ?_, fun root hroot => ?_⟩
    · obtain ⟨visit, hvisit, rfl⟩ := List.mem_map.mp hrecord
      exact (hvisits.domain_eq first rfl visit hvisit).trans hfirst
    · obtain rfl := Option.some.inj hroot
      exact ⟨hsource.trans hfirst, hdepth⟩
  rcases hresult with ⟨raw, hresult⟩ | hresult
  · obtain ⟨ascii, hascii, hresult⟩ := Traced.outcome_bind_eq_ok.mp hresult
    exact htext hascii hresult
  · obtain ⟨ascii, hascii, hresult⟩ := Traced.outcome_bind_eq_ok.mp hresult
    obtain ⟨raws, -, hresult⟩ := Traced.outcome_bind_eq_ok.mp hresult
    cases raws with
    | nil =>
      obtain rfl : [] = records := Except.ok.inj hresult
      exact ⟨List.forall_mem_nil _, nofun⟩
    | cons raw raws => exact htext hascii hresult

/-- A domain has one spelling exactly if normalizing again changes nothing. -/
theorem speltOnce_iff (h : normalizeDomain domain = .ok spelling) :
    SpeltOnce domain spelling ↔ normalizeDomain spelling = .ok spelling := by
  constructor
  · exact SpeltOnce.again
  · intro hagain
    have hascii := Idna.isAscii_of_toAscii? (normalizeDomain_eq_ok_iff.mp h).2
    obtain ⟨hbare, hkey⟩ := bare_of_normalizeDomain_self hascii hagain
    refine ⟨hbare, hagain, hkey, head?_queries_resolve h, ?_, fun resolver options => ⟨?_, ?_⟩⟩
    · exact fun resolver options records => domain_eq_of_isResultFor h
    · rw [resolve, resolve, h, hagain]
    · intro raw
      rw [parseRecord, parseRecord, h, hagain]

/-- What normalizing a domain comes to. -/
structure Normalizes (domain : String) : Prop where
  /-- A domain is empty if nothing is left of it, and no name if what is left has no ASCII form;
  there is no other way to be refused. -/
  refused : ∀ error, normalizeDomain domain = .error error ↔
    (Text.strip domain.toList = [] ∧ error = .emptyDomain) ∨
      (Text.strip domain.toList ≠ [] ∧ Idna.toAscii? (Text.strip domain.toList) = none ∧
        error = .notADomain)
  /-- Where the ASCII form is its own ASCII form, the labels at the ends of the mapped text decide
  whether there is one spelling. -/
  spelt : ∀ spelling, normalizeDomain domain = .ok spelling →
    Idna.toAscii? spelling.toList = some spelling.toList →
    ∃ mapped, Idna.mapChars? (Text.strip domain.toList) = some mapped ∧
      (SpeltOnce domain spelling ↔ Idna.PlainEnds ((Idna.compose mapped).splitOn '.'))
  /-- A domain in ASCII has one spelling unless there is a blank in front of the dots that end
  it. -/
  ascii : domain.toList.all Idna.isAscii = true → ∀ spelling,
    normalizeDomain domain = .ok spelling →
    (SpeltOnce domain spelling ↔
      ∀ c, (Text.strip domain.toList).getLast? = some c → Text.isBlank c = false)

theorem normalizes (domain : String) : Normalizes domain := by
  refine ⟨fun error => normalizeDomain_eq_error_iff, fun spelling h hagain => ?_,
    fun hascii spelling h => ?_⟩
  · obtain ⟨hne, hname⟩ := normalizeDomain_eq_ok_iff.mp h
    obtain ⟨mapped, labels, hmapped, -, -⟩ := Idna.exists_spelt_of_toAscii? hname
    refine ⟨mapped, hmapped, ?_⟩
    rw [speltOnce_iff h, normalizeDomain_self_iff hagain]
    exact Idna.bare_iff_plainEnds hname hmapped
  · obtain ⟨hne, hname⟩ := normalizeDomain_eq_ok_iff.mp h
    have hstripped : (Text.strip domain.toList).all Idna.isAscii = true := by
      rw [List.all_eq_true] at hascii ⊢
      exact fun c hc => hascii c ((Text.strip_sublist _).subset hc)
    have hlower := Idna.toAscii?_of_isAscii hstripped hname
    have hagain : Idna.toAscii? spelling.toList = some spelling.toList := by
      conv_lhs => rw [hlower, Idna.toAscii?_map_toLower hstripped, hname]
    rw [speltOnce_iff h, normalizeDomain_self_iff hagain, hlower, Text.bare_map_toLower]
    exact Text.bare_strip_iff hne

/-- A domain that is trimmed, loses its dot and changes its case, and has one spelling then. -/
theorem normalizes_of_capitals :
    normalizeDomain " Example.COM.. " = .ok "example.com" ∧
      SpeltOnce " Example.COM.. " "example.com" := by
  have h : normalizeDomain " Example.COM.. " = .ok "example.com" := by decide +kernel
  refine ⟨h, ((normalizes " Example.COM.. ").ascii (by decide +kernel) "example.com" h).mpr ?_⟩
  have hstrip : Text.strip " Example.COM.. ".toList = "Example.COM".toList := by decide +kernel
  intro c hc
  rw [hstrip] at hc
  obtain rfl := Option.some.inj hc
  rfl

/-- Behind the dots that end a domain a blank comes to light, and stays. -/
theorem not_forall_normalizeDomain_again :
    ¬∀ domain spelling : String, normalizeDomain domain = .ok spelling →
      Idna.toAscii? spelling.toList = some spelling.toList →
      Text.Bare spelling.toList ∧ normalizeDomain spelling = .ok spelling := by
  intro h
  have hdomain : normalizeDomain "a ." = .ok "a " := by decide +kernel
  have hagain : Idna.toAscii? "a ".toList = some "a ".toList := by decide +kernel
  have hbare := (h "a ." "a " hdomain hagain).1
  have hblank : Text.isBlank ' ' = false := (hbare.last ' ' rfl).1
  exact absurd hblank (by decide)

end SenderPolicy
