import SenderPolicy.Proofs.Policy.HostTokens

/-!
# Letter case in tokens

A token in another case is the same term with its texts in another case.  Words are recognised in
any case and values are cut out as they are written, so putting a token in lower case puts its
values in lower case and changes nothing else.

* `Reads.lowercase`, `Reads.exists_of_lowercase`: a token can be read if and only if it can be read
  in lower case, and then as the same kind of term.
* `parse_lowercase_and_cutout`: the law for all tokens, with its other half: what a term has cut out
  of its token is everything behind the word in front.

A mask has no letters, so it is the same in lower case.  That is seen from the grammar of masks and
not from the reader (`HostMask.parse_map_toLower`).
-/

namespace SenderPolicy

/-! ## Letters -/

namespace Text

theorem isUpper_iff {c : Char} : c.isUpper = true ↔ 65 ≤ c.toNat ∧ c.toNat ≤ 90 := by
  have hrange : c.isUpper = decide (65 ≤ c.val ∧ c.val ≤ 90) := rfl
  rw [hrange, decide_eq_true_iff, UInt32.le_iff_toNat_le, UInt32.le_iff_toNat_le]
  rfl

theorem isDigit_iff {c : Char} : c.isDigit = true ↔ 48 ≤ c.toNat ∧ c.toNat ≤ 57 := by
  have hrange : c.isDigit = (decide (48 ≤ c.val) && decide (c.val ≤ 57)) := rfl
  rw [hrange, Bool.and_eq_true, decide_eq_true_iff, decide_eq_true_iff, UInt32.le_iff_toNat_le,
    UInt32.le_iff_toNat_le]
  rfl

/-- What holds of the numbers in a range holds of the characters that they stand for. -/
theorem of_toNat_le {motive : Char → Prop} {first last : Nat} {c : Char}
    (h : ∀ n ≤ last, first ≤ n → motive (Char.ofNat n))
    (hc : first ≤ c.toNat ∧ c.toNat ≤ last) : motive c := by
  have hnumber := h c.toNat hc.2 hc.1
  rwa [Char.ofNat_toNat] at hnumber

theorem toLower_eq_self {c : Char} (h : c.isUpper = false) : c.toLower = c := by
  refine dif_neg fun hupper => ?_
  have hletter : c.isUpper = true := isUpper_iff.mpr
    ⟨UInt32.le_iff_toNat_le.mp hupper.1, UInt32.le_iff_toNat_le.mp hupper.2⟩
  rw [h] at hletter
  cases hletter

theorem isAlpha_toLower {c : Char} (h : c.isUpper = true) : c.toLower.isAlpha = true :=
  of_toNat_le (motive := fun c => c.toLower.isAlpha = true) (by decide) (isUpper_iff.mp h)

/-- No digit is a letter. -/
theorem isAlpha_of_isDigit {c : Char} (h : c.isDigit = true) : c.isAlpha = false :=
  of_toNat_le (motive := fun c => c.isAlpha = false) (by decide) (isDigit_iff.mp h)

theorem toLower_toLower (c : Char) : c.toLower.toLower = c.toLower := by
  cases h : c.isUpper with
  | true =>
    exact of_toNat_le (motive := fun c => c.toLower.toLower = c.toLower) (by decide)
      (isUpper_iff.mp h)
  | false => rw [toLower_eq_self h, toLower_eq_self h]

theorem map_toLower_toLower (cs : List Char) :
    (cs.map Char.toLower).map Char.toLower = cs.map Char.toLower := by
  rw [List.map_map]
  exact List.map_congr_left fun c _ => toLower_toLower c

/-- What is no letter is the lower case of itself alone. -/
theorem toLower_eq_iff {c d : Char} (hd : d.isAlpha = false) : c.toLower = d ↔ c = d := by
  constructor
  · rintro rfl
    cases h : c.isUpper with
    | true =>
      rw [isAlpha_toLower h] at hd
      cases hd
    | false => exact (toLower_eq_self h).symm
  · rintro rfl
    exact toLower_eq_self (Bool.or_eq_false_iff.mp hd).1

theorem map_toLower_eq_self {cs : List Char} (h : ∀ c ∈ cs, c.isAlpha = false) :
    cs.map Char.toLower = cs :=
  (List.map_congr_left fun c hc => (toLower_eq_iff (h c hc)).mpr rfl).trans (List.map_id' cs)

theorem head?_map_toLower {cs : List Char} {d : Char} (hd : d.isAlpha = false) :
    (cs.map Char.toLower).head? = some d ↔ cs.head? = some d := by
  cases cs with
  | nil => rfl
  | cons c cs =>
    rw [List.map_cons, List.head?_cons, List.head?_cons, Option.some_inj, Option.some_inj,
      toLower_eq_iff hd]

theorem cutBefore_map_toLower {sep : Char} (hsep : sep.isAlpha = false) (cs : List Char) :
    cutBefore sep (cs.map Char.toLower) =
      ((cutBefore sep cs).1.map Char.toLower, (cutBefore sep cs).2.map Char.toLower) := by
  have hsame : (· != sep) ∘ Char.toLower = (· != sep) := by
    funext c
    exact Bool.eq_iff_iff.mpr (by simp only [Function.comp, bne_iff_ne, ne_eq, toLower_eq_iff hsep])
  rw [cutBefore, cutBefore, List.takeWhile_map, List.dropWhile_map, hsame]

theorem lowercase_ofList (cs : List Char) :
    lowercase (String.ofList cs) = String.ofList (cs.map Char.toLower) := by
  rw [lowercase, String.toList_ofList]

end Text

/-! ## Masks -/

namespace HostMask

theorem IsLength.isAlpha_eq_false {bound n : Nat} {letters : List Char}
    (h : IsLength bound letters n) : ∀ c ∈ letters, c.isAlpha = false :=
  fun c hc => Text.isAlpha_of_isDigit (h.isDigit c hc)

/-- There are no letters in a mask. -/
theorem Lengths.isAlpha_eq_false {letters : List Char} {v4 v6 : Option Nat}
    (h : Lengths letters v4 v6) : ∀ c ∈ letters, c.isAlpha = false := by
  have hslash : '/'.isAlpha = false := by decide
  cases h with
  | absent => exact List.forall_mem_nil _
  | both h => exact List.forall_mem_cons.mpr ⟨hslash, h.isAlpha_eq_false⟩
  | second h =>
    exact List.forall_mem_cons.mpr ⟨hslash, List.forall_mem_cons.mpr ⟨hslash, h.isAlpha_eq_false⟩⟩
  | each hfirst hsecond =>
    refine List.forall_mem_cons.mpr ⟨hslash, List.forall_mem_append.mpr
      ⟨hfirst.isAlpha_eq_false, ?_⟩⟩
    exact List.forall_mem_cons.mpr
      ⟨hslash, List.forall_mem_cons.mpr ⟨hslash, hsecond.isAlpha_eq_false⟩⟩

/-- A mask is the same in lower case. -/
theorem parse_map_toLower {letters : List Char}
    (h : letters = [] ∨ letters.head? = some '/') :
    parse (letters.map Char.toLower) = parse letters := by
  have hslash : '/'.isAlpha = false := by decide
  have hlower : letters.map Char.toLower = [] ∨ (letters.map Char.toLower).head? = some '/' :=
    h.imp (fun hnil => by rw [hnil]; rfl) (Text.head?_map_toLower hslash).mpr
  by_cases hmalformed : parse letters = .malformed
  · -- lower case does not make a mask of it, as a mask is not the lower case of anything else
    by_contra hne
    rw [hmalformed] at hne
    obtain ⟨v4, v6, hlengths⟩ := exists_lengths_of_parse hlower hne
    have hsame : letters.map Char.toLower = letters := by
      refine (List.map_congr_left fun c hc => ?_).trans (List.map_id' letters)
      have halpha := hlengths.isAlpha_eq_false c.toLower (List.mem_map_of_mem hc)
      exact ((Text.toLower_eq_iff halpha).mp rfl).symm
    rw [hsame, hmalformed] at hne
    exact hne rfl
  · obtain ⟨v4, v6, hlengths⟩ := exists_lengths_of_parse h hmalformed
    rw [Text.map_toLower_eq_self hlengths.isAlpha_eq_false]

end HostMask

/-! ## Terms -/

/-- The words that can stand in front of the value of the mechanism. -/
def HostKind.openings : HostKind → List String
  | a => ["a", "a:", "+a", "+a:"]
  | mx => ["mx", "mx:", "+mx", "+mx:"]

namespace Term

/-- The term with its texts put through a function; whatever else it says it says as before. -/
def mapText (f : String → String) : Term → Term
  | version value => version (f value)
  | literal family value => literal family (f value)
  | inclusion target => inclusion (f target)
  | redirection target => redirection (f target)
  | host kind target mask value => host kind (target.map f) mask (f value)
  | existsTest value => existsTest (f value)
  | pointer value => pointer (f value)
  | all action => all action
  | explanation target => explanation (f target)
  | unknown => unknown

/-- What the term has cut out of its token, if anything. -/
def cutout? : Term → Option String
  | version value | literal _ value | host _ _ _ value | existsTest value | pointer value =>
    some value
  | inclusion target | redirection target | explanation target => some target
  | all _ | unknown => none

/-- The words that can stand in front of what the term has cut out of its token. -/
def openings : Term → List String
  | version _ => ["v="]
  | literal .v4 _ => ["ip4:"]
  | literal .v6 _ => ["ip6:"]
  | inclusion _ => ["include:"]
  | redirection _ => ["redirect="]
  | explanation _ => ["exp="]
  | existsTest _ => ["exists:"]
  | pointer _ => ["ptr:", "ptr"]
  | host kind _ _ _ => kind.openings
  | all _ | unknown => []

variable {cs : List Char} {term : Term}

/-- A keyword makes a term that has one text, which it has cut out behind the keyword. -/
theorem mapText_of_mem_keywords (f : String → String) : ∀ pair ∈ keywords, ∀ value,
    (pair.2 value).mapText f = pair.2 (f value) ∧ (pair.2 value).cutout? = some value ∧
      pair.1 ∈ (pair.2 value).openings := by
  simp [keywords, mapText, cutout?, openings]

theorem hostValue?_map_toLower {rest value : List Char} (h : hostValue? rest = some value) :
    hostValue? (rest.map Char.toLower) = some (value.map Char.toLower) := by
  rw [hostValue?_eq_some_iff] at h ⊢
  rcases h with rfl | ⟨rfl, hvalue⟩
  · exact Or.inl rfl
  · refine Or.inr ⟨rfl, hvalue.imp ?_ (Text.head?_map_toLower (by decide)).mpr⟩
    rintro rfl
    rfl

theorem ofHostValue_map_toLower (kind : HostKind) (value : List Char) :
    ofHostValue kind (value.map Char.toLower) =
      (ofHostValue kind value).mapText Text.lowercase := by
  have hmask := HostMask.parse_map_toLower (Text.cutBefore_spec '/' value).2
  simp only [ofHostValue, Text.cutBefore_map_toLower (show '/'.isAlpha = false by decide), hmask,
    mapText, Text.lowercase_ofList, List.map_eq_nil_iff]
  split
  · rfl
  · rw [Option.map_some, Text.lowercase_ofList]

/-- What can be read can be read in lower case. -/
theorem Reads.lowercase (h : Reads cs term) :
    Reads (cs.map Char.toLower) (term.mapText Text.lowercase) := by
  cases h with
  | keyword hmem hcs hhead =>
    rw [(mapText_of_mem_keywords _ _ hmem _).1, Text.lowercase_ofList]
    refine .keyword hmem (by rw [hcs, List.map_append]) ?_
    rw [Text.map_toLower_toLower, hhead]
  | whole hmem hcs =>
    have hkept : ∀ pair ∈ fixed, pair.2.mapText Text.lowercase = pair.2 := by decide
    rw [hkept _ hmem]
    refine .whole hmem ?_
    rw [Text.map_toLower_toLower, hcs]
  | host hcs hqualifier hname hvalue =>
    rw [← ofHostValue_map_toLower]
    refine .host (by rw [hcs, List.map_append, List.map_append]) ?_ ?_
      (hostValue?_map_toLower hvalue)
    · exact hqualifier.imp (fun h => by rw [h]; rfl) (fun h => by rw [h]; rfl)
    · rw [Text.map_toLower_toLower, hname]

/-- What can be read in lower case can be read. -/
theorem Reads.exists_of_lowercase (h : Reads (cs.map Char.toLower) term) :
    ∃ term', Reads cs term' := by
  cases h with
  | @keyword keyword make head value hmem hcs hhead =>
    obtain ⟨head', value', rfl, rfl, -⟩ := List.map_eq_append_iff.mp hcs
    rw [Text.map_toLower_toLower] at hhead
    exact ⟨_, .keyword hmem rfl hhead⟩
  | whole hmem hcs =>
    rw [Text.map_toLower_toLower] at hcs
    exact ⟨_, .whole hmem hcs⟩
  | @host kind qualifier name rest value hcs hqualifier hname hvalue =>
    obtain ⟨front, rest', rfl, hfront, rfl⟩ := List.map_eq_append_iff.mp hcs
    obtain ⟨qualifier', name', rfl, rfl, rfl⟩ := List.map_eq_append_iff.mp hfront
    rw [Text.map_toLower_toLower] at hname
    have hplus : qualifier' = [] ∨ qualifier' = ['+'] := by
      refine hqualifier.imp List.map_eq_nil_iff.mp fun h => ?_
      obtain ⟨c, rfl, hc⟩ := List.map_eq_singleton_iff.mp h
      rw [(Text.toLower_eq_iff (by decide)).mp hc]
    have hrest : rest' = [] ∨ rest'.head? = some ':' ∨ rest'.head? = some '/' := by
      refine (exists_hostValue?_iff.mp ⟨value, hvalue⟩).imp List.map_eq_nil_iff.mp ?_
      exact Or.imp (Text.head?_map_toLower (by decide)).mp (Text.head?_map_toLower (by decide)).mp
    obtain ⟨value', hvalue'⟩ := exists_hostValue?_iff.mpr hrest
    exact ⟨_, .host rfl hplus hname hvalue'⟩

/-- A token in lower case says the same in lower case. -/
theorem parse_lowercase (token : String) :
    parse (Text.lowercase token) = (parse token).mapText Text.lowercase := by
  have hchars : parse (Text.lowercase token) = ofChars (token.toList.map Char.toLower) := by
    rw [parse, Text.lowercase, String.toList_ofList]
  rw [hchars]
  by_cases hknown : parse token = unknown
  · rw [hknown]
    refine ofChars_eq_unknown_iff.mpr fun term hlower => ?_
    obtain ⟨term', hreads⟩ := hlower.exists_of_lowercase
    exact ofChars_eq_unknown_iff.mp hknown term' hreads
  · exact ofChars_of_reads (reads_of_ofChars rfl hknown).lowercase

/-- What a term has cut out of its token is all that follows the word in front. -/
theorem Reads.exists_front {value : String} (h : Reads cs term)
    (hvalue : term.cutout? = some value) :
    ∃ front, cs = front ++ value.toList ∧
      ∃ opening ∈ term.openings, front.map Char.toLower = opening.toList := by
  cases h with
  | keyword hmem hcs hhead =>
    obtain ⟨-, hcutout, hopening⟩ := mapText_of_mem_keywords id _ hmem _
    obtain rfl := Option.some.inj (hcutout.symm.trans hvalue)
    exact ⟨_, by rw [hcs, String.toList_ofList], _, hopening, hhead⟩
  | whole hmem hcs =>
    have hwhole : ∀ pair ∈ fixed, pair.2.cutout? = none ∨
        pair.2.cutout? = some "" ∧ pair.1 ∈ pair.2.openings := by decide
    rcases hwhole _ hmem with hnone | ⟨hempty, hopening⟩
    · rw [hnone] at hvalue
      cases hvalue
    · obtain rfl := Option.some.inj (hempty.symm.trans hvalue)
      exact ⟨cs, (List.append_nil cs).symm, _, hopening, hcs⟩
  | @host kind qualifier name rest letters hcs hqualifier hname hletters =>
    obtain rfl : String.ofList letters = value := Option.some.inj hvalue
    have hopening : ∀ separator, separator = [] ∨ separator = [':'] →
        ∃ opening ∈ kind.openings,
          (qualifier ++ name ++ separator).map Char.toLower = opening.toList := by
      intro separator hseparator
      rw [List.map_append, List.map_append, hname]
      refine ⟨String.ofList (qualifier ++ kind.letters ++ separator), ?_, ?_⟩
      · rcases hqualifier with rfl | rfl <;> rcases hseparator with rfl | rfl <;> cases kind <;>
          decide
      · rw [String.toList_ofList]
        rcases hqualifier with rfl | rfl <;> rcases hseparator with rfl | rfl <;> rfl
    rw [String.toList_ofList, hcs]
    rcases hostValue?_eq_some_iff.mp hletters with rfl | ⟨rfl, -⟩
    · exact ⟨qualifier ++ name ++ [':'], List.append_cons .., hopening _ (Or.inr rfl)⟩
    · refine ⟨qualifier ++ name ++ [], ?_, hopening _ (Or.inl rfl)⟩
      rw [List.append_nil]

/-- Tokens are read in any case and values are kept as they are written.  A token in lower case says
the same in lower case, and what a term has cut out of its token is the end of it, up to the word in
front. -/
theorem parse_lowercase_and_cutout (token : String) :
    parse (Text.lowercase token) = (parse token).mapText Text.lowercase ∧
      ∀ value, (parse token).cutout? = some value →
        value.toList <:+ token.toList ∧ ∃ front, token.toList = front ++ value.toList ∧
          ∃ opening ∈ (parse token).openings, front.map Char.toLower = opening.toList := by
  refine ⟨parse_lowercase token, fun value hvalue => ?_⟩
  have hknown : parse token ≠ unknown := by
    intro hunknown
    rw [hunknown] at hvalue
    cases hvalue
  have hreads : Reads token.toList (parse token) := (ofChars_eq_iff hknown).mp rfl
  obtain ⟨front, hfront, hopening⟩ := hreads.exists_front hvalue
  exact ⟨⟨front, hfront.symm⟩, front, hfront, hopening⟩

/-- The value keeps its case in the one term and is in lower case in the other. -/
theorem parse_lowercase_and_cutout_of_include :
    parse "INCLUDE:Mail.Example" = .inclusion "Mail.Example" ∧
      parse (Text.lowercase "INCLUDE:Mail.Example") = .inclusion "mail.example" ∧
      "Mail.Example".toList <:+ "INCLUDE:Mail.Example".toList := by
  have hparse : parse "INCLUDE:Mail.Example" = .inclusion "Mail.Example" := by decide
  obtain ⟨hlower, hcutout⟩ := parse_lowercase_and_cutout "INCLUDE:Mail.Example"
  rw [hparse] at hlower hcutout
  exact ⟨hparse, hlower.trans (by decide), (hcutout "Mail.Example" rfl).1⟩

end Term

end SenderPolicy
