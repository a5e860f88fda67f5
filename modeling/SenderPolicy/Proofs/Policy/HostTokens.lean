import SenderPolicy.Proofs.Net.Written
import SenderPolicy.Proofs.Policy.Names

/-!
# The mechanisms that stand for hosts

A token is an `a` or `mx` if it has their name in front, perhaps behind a `+`, and behind the name
the end, a colon or a slash.  What is read from it then is determined letter by letter: the value,
the host that it names in front of its first slash, and the mask from there on.  Both are said in
`Term.host_iff_heads_and_exists_parts`.

`HostMask.Lengths` is the grammar of masks, with four forms and nothing else.  The reader looks for
two slashes in front, and then for two slashes further on; `cutAtDouble_eq_none_of_not_mem` is why
it never finds them in a length.
-/

namespace SenderPolicy

/-! ## Prefix lengths -/

namespace HostMask

/-- The letters are a prefix length: one or more digits, in base ten, of value at most `bound`. -/
structure IsLength (bound : Nat) (letters : List Char) (n : Nat) : Prop where
  ne_nil : letters ≠ []
  isDigit : ∀ c ∈ letters, c.isDigit = true
  value_eq : Numeral.value 10 (letters.map fun c => c.toNat - '0'.toNat) = n
  le_bound : n ≤ bound

/-- The letters are a mask, which gives each family its length: no mask at all, one length for both,
one for IPv6 only, or one for each. -/
inductive Lengths : List Char → (v4 v6 : Option Nat) → Prop where
  | absent : Lengths [] none none
  | both {letters : List Char} {n : Nat} (h : IsLength 128 letters n) :
      Lengths ('/' :: letters) (some n) (some n)
  | second {letters : List Char} {m : Nat} (h : IsLength 128 letters m) :
      Lengths ('/' :: '/' :: letters) none (some m)
  | each {first second : List Char} {n m : Nat} (hfirst : IsLength 32 first n)
      (hsecond : IsLength 128 second m) :
      Lengths ('/' :: (first ++ '/' :: '/' :: second)) (some n) (some m)

/-- The mask is what the letters come to. -/
structure Spelt (letters : List Char) (mask : HostMask) : Prop where
  /-- It can be used exactly if the letters are a mask. -/
  ne_malformed_iff : mask ≠ .malformed ↔ ∃ v4 v6, Lengths letters v4 v6
  /-- It then gives each family the length that the letters give. -/
  lengthFor_eq : ∀ v4 v6, Lengths letters v4 v6 →
    mask.lengthFor .v4 = v4 ∧ mask.lengthFor .v6 = v6
  /-- Otherwise it gives none. -/
  lengthFor_eq_none : mask = .malformed → ∀ family, mask.lengthFor family = none

theorem length?_eq_some_iff {bound n : Nat} {letters : List Char} :
    length? bound letters = some n ↔ IsLength bound letters n := by
  rw [length?, Option.filter_eq_some_iff, Numeral.decimal?_eq_some_iff, decide_eq_true_iff]
  constructor
  · rintro ⟨h, hbound⟩
    exact ⟨h.ne_nil, h.isDigit, h.value_eq, hbound⟩
  · intro h
    exact ⟨⟨h.ne_nil, h.isDigit, h.value_eq⟩, h.le_bound⟩

variable {bound n : Nat} {letters : List Char}

theorem IsLength.slash_not_mem (h : IsLength bound letters n) : '/' ∉ letters :=
  fun hslash => absurd (h.isDigit '/' hslash) (by decide)

theorem IsLength.head?_ne (h : IsLength bound letters n) (rest : List Char) :
    (letters ++ rest).head? ≠ some '/' := by
  obtain ⟨c, letters', rfl⟩ := List.exists_cons_of_ne_nil h.ne_nil
  intro hslash
  exact h.slash_not_mem (Option.some.inj hslash ▸ List.mem_cons_self ..)

/-! ## Masks -/

theorem cutAtDouble_eq_none_of_not_mem {sep : Char} {cs : List Char} (h : sep ∉ cs) :
    Text.cutAtDouble sep cs = none := by
  rw [Option.eq_none_iff_forall_ne_some]
  rintro ⟨before, after⟩ hcut
  rw [Text.eq_append_of_cutAtDouble hcut] at h
  exact h (List.mem_append_right _ (List.mem_cons_self ..))

/-- Behind a single slash there are one or two lengths. -/
theorem parse_slash {body : List Char} (h : body.head? ≠ some '/') :
    parse ('/' :: body) =
      match Text.cutAtDouble '/' body with
      | some (v4, v6) => ofLengths (length? 32 v4) (length? 128 v6)
      | none => ofLengths (length? 128 body) (length? 128 body) := by
  cases body with
  | nil => rfl
  | cons c body =>
    have hc : c ≠ '/' := fun heq => h (congrArg some heq)
    rw [parse.eq_def]
    split
    · next heq => cases heq
    · next heq => exact absurd (List.cons.inj (List.cons.inj heq).2).1 hc
    · next heq =>
      cases heq
      rfl
    · next hne => exact absurd rfl (hne _)

/-- A mask gives the lengths that it is written with. -/
theorem Lengths.parse_eq {v4 v6 : Option Nat} (h : Lengths letters v4 v6) :
    parse letters = .absent ∧ v4 = none ∧ v6 = none ∨ parse letters = .lengths v4 v6 := by
  cases h with
  | absent => exact Or.inl ⟨rfl, rfl, rfl⟩
  | both h =>
    right
    have hhead := h.head?_ne []
    rw [List.append_nil] at hhead
    rw [parse_slash hhead, cutAtDouble_eq_none_of_not_mem h.slash_not_mem]
    simp only [length?_eq_some_iff.mpr h, ofLengths]
  | second h =>
    right
    rw [parse, length?_eq_some_iff.mpr h]
  | each hfirst hsecond =>
    right
    have hlast : ∀ first : List Char, '/' ∉ first → first.getLast? ≠ some '/' :=
      fun first h heq => h (List.mem_of_getLast? heq)
    rw [parse_slash (hfirst.head?_ne _), Text.cutAtDouble_append _
      (cutAtDouble_eq_none_of_not_mem hfirst.slash_not_mem) (hlast _ hfirst.slash_not_mem)]
    simp only [length?_eq_some_iff.mpr hfirst, length?_eq_some_iff.mpr hsecond, ofLengths]

theorem exists_of_ofLengths {x y : Option Nat} (h : ofLengths x y ≠ .malformed) :
    ∃ n m, x = some n ∧ y = some m := by
  cases x with
  | none => exact absurd rfl h
  | some n =>
    cases y with
    | none => exact absurd rfl h
    | some m => exact ⟨n, m, rfl, rfl⟩

/-- What is no mask is malformed. -/
theorem exists_lengths_of_parse (h : letters = [] ∨ letters.head? = some '/')
    (husable : parse letters ≠ .malformed) : ∃ v4 v6, Lengths letters v4 v6 := by
  rcases h with rfl | hslash
  · exact ⟨none, none, .absent⟩
  · obtain ⟨body, rfl⟩ := List.head?_eq_some_iff.mp hslash
    by_cases hbody : body.head? = some '/'
    · obtain ⟨length, rfl⟩ := List.head?_eq_some_iff.mp hbody
      rw [parse] at husable
      cases hlength : length? 128 length with
      | none => exact absurd (by rw [hlength]) husable
      | some m => exact ⟨none, some m, .second (length?_eq_some_iff.mp hlength)⟩
    · rw [parse_slash hbody] at husable
      cases hcut : Text.cutAtDouble '/' body with
      | none =>
        rw [hcut] at husable
        obtain ⟨n, -, hn, -⟩ := exists_of_ofLengths husable
        exact ⟨some n, some n, .both (length?_eq_some_iff.mp hn)⟩
      | some parts =>
        obtain ⟨first, second⟩ := parts
        rw [hcut] at husable
        obtain ⟨n, m, hn, hm⟩ := exists_of_ofLengths husable
        rw [Text.eq_append_of_cutAtDouble hcut]
        exact ⟨some n, some m, .each (length?_eq_some_iff.mp hn) (length?_eq_some_iff.mp hm)⟩

theorem spelt_parse (h : letters = [] ∨ letters.head? = some '/') :
    Spelt letters (parse letters) where
  ne_malformed_iff := by
    refine ⟨exists_lengths_of_parse h, ?_⟩
    rintro ⟨v4, v6, hlengths⟩ hmalformed
    rcases hlengths.parse_eq with ⟨heq, -⟩ | heq <;> rw [heq] at hmalformed <;> cases hmalformed
  lengthFor_eq := by
    intro v4 v6 hlengths
    rcases hlengths.parse_eq with ⟨heq, rfl, rfl⟩ | heq <;> rw [heq] <;> exact ⟨rfl, rfl⟩
  lengthFor_eq_none := by
    intro hmalformed family
    rw [hmalformed]
    rfl

end HostMask

/-! ## Tokens -/

/-- The parts in which a mechanism that stands for hosts is written. -/
structure HostParts where
  qualifier : List Char
  name : List Char
  separator : List Char
  /-- The host, if one is named. -/
  front : List Char
  /-- What follows the host, from the first slash on. -/
  mask : List Char

namespace HostParts

/-- Everything behind the separator. -/
def value (parts : HostParts) : List Char := parts.front ++ parts.mask

/-- Everything behind the name. -/
def rest (parts : HostParts) : List Char := parts.separator ++ parts.value

/-- All of it. -/
def letters (parts : HostParts) : List Char := parts.qualifier ++ parts.name ++ parts.rest

/-- The host, unless there is nothing in front of the mask. -/
def target? (parts : HostParts) : Option String :=
  if parts.front = [] then none else some (String.ofList parts.front)

end HostParts

/-- There may be a `+`, the name is that of the mechanism in any case, and what follows it is
nothing, or begins with a colon or with a slash. -/
structure HostKind.Heads (kind : HostKind) (qualifier name rest : List Char) : Prop where
  qualifier_eq : qualifier = [] ∨ qualifier = ['+']
  name_eq : name.map Char.toLower = kind.letters
  rest_eq : rest = [] ∨ rest.head? = some ':' ∨ rest.head? = some '/'

/-- The parts are those of a mechanism of the kind. -/
structure HostParts.Divide (parts : HostParts) (kind : HostKind) : Prop where
  heads : kind.Heads parts.qualifier parts.name parts.rest
  /-- A colon behind the name separates it from the value. -/
  separator_eq : parts.separator = if parts.rest.head? = some ':' then [':'] else []
  /-- The mask begins with the first slash. -/
  slash_not_mem : '/' ∉ parts.front
  mask_eq : parts.mask = [] ∨ parts.mask.head? = some '/'

namespace Term

variable {kind : HostKind}

theorem exists_hostValue?_iff {rest : List Char} :
    (∃ value, hostValue? rest = some value) ↔
      rest = [] ∨ rest.head? = some ':' ∨ rest.head? = some '/' := by
  simp only [hostValue?_eq_some_iff]
  constructor
  · rintro ⟨value, rfl | ⟨rfl, hvalue⟩⟩
    · exact Or.inr (Or.inl rfl)
    · exact hvalue.imp_right Or.inr
  · rintro (hnil | hcolon | hslash)
    · exact ⟨rest, Or.inr ⟨rfl, Or.inl hnil⟩⟩
    · obtain ⟨value, rfl⟩ := List.head?_eq_some_iff.mp hcolon
      exact ⟨value, Or.inl rfl⟩
    · exact ⟨rest, Or.inr ⟨rfl, Or.inr hslash⟩⟩

/-- What is read as a host is read from a mechanism for hosts. -/
theorem Reads.exists_host {cs : List Char} {target : Option String} {mask : HostMask}
    {value : String} (h : Reads cs (.host kind target mask value)) :
    ∃ qualifier name rest letters, cs = qualifier ++ name ++ rest ∧
      (qualifier = [] ∨ qualifier = ['+']) ∧ name.map Char.toLower = kind.letters ∧
      hostValue? rest = some letters ∧ ofHostValue kind letters = .host kind target mask value := by
  generalize hterm : Term.host kind target mask value = term at h
  cases h with
  | keyword hmem =>
    have hnone : ∀ pair ∈ keywords, ∀ value, (pair.2 value).isHost = false := by
      simp [keywords, isHost]
    have hhost : (Term.host kind target mask value).isHost = false :=
      (congrArg isHost hterm).trans (hnone _ hmem _)
    cases hhost
  | whole hmem =>
    have hnone : ∀ pair ∈ fixed, pair.2.isHost = false := by decide
    have hhost : (Term.host kind target mask value).isHost = false :=
      (congrArg isHost hterm).trans (hnone _ hmem)
    cases hhost
  | host hcs hqualifier hname hvalue =>
    cases hterm
    exact ⟨_, _, _, _, hcs, hqualifier, hname, hvalue, rfl⟩

theorem exists_parse_eq_host_iff {token : String} :
    (∃ kind target mask value, parse token = .host kind target mask value) ↔
      ∃ (kind : HostKind) (qualifier name rest : List Char),
        token.toList = qualifier ++ name ++ rest ∧ kind.Heads qualifier name rest := by
  constructor
  · rintro ⟨kind, target, mask, value, hparse⟩
    obtain ⟨qualifier, name, rest, letters, htoken, hqualifier, hname, hvalue, -⟩ :=
      (reads_of_ofChars hparse nofun).exists_host
    exact ⟨kind, qualifier, name, rest, htoken, hqualifier, hname,
      exists_hostValue?_iff.mp ⟨letters, hvalue⟩⟩
  · rintro ⟨kind, qualifier, name, rest, htoken, hqualifier, hname, hrest⟩
    obtain ⟨letters, hvalue⟩ := exists_hostValue?_iff.mpr hrest
    exact ⟨kind, _, _, _, ofChars_of_reads (.host htoken hqualifier hname hvalue)⟩

theorem exists_parts {token value : String} {target : Option String} {mask : HostMask}
    (hparse : parse token = .host kind target mask value) :
    ∃ parts : HostParts, parts.letters = token.toList ∧ parts.Divide kind ∧
      value.toList = parts.value ∧ target = parts.target? ∧ mask.Spelt parts.mask := by
  obtain ⟨qualifier, name, rest, letters, htoken, hqualifier, hname, hvalue, hterm⟩ :=
    (reads_of_ofChars hparse nofun).exists_host
  obtain ⟨-, htarget, hmask, hletters⟩ := Term.host.inj hterm
  obtain ⟨hslash, htail⟩ := Text.cutBefore_spec '/' letters
  have hcut : (Text.cutBefore '/' letters).1 ++ (Text.cutBefore '/' letters).2 = letters :=
    Text.cutBefore_append '/' letters
  have hseparator : ∃ separator, rest = separator ++ letters ∧
      separator = if rest.head? = some ':' then [':'] else [] := by
    rcases hostValue?_eq_some_iff.mp hvalue with rfl | ⟨rfl, rfl | hhead⟩
    · exact ⟨[':'], rfl, rfl⟩
    · exact ⟨[], rfl, rfl⟩
    · refine ⟨[], rfl, ?_⟩
      rw [hhead]
      rfl
  obtain ⟨separator, hrest, hseparator⟩ := hseparator
  let parts : HostParts := ⟨qualifier, name, separator, (Text.cutBefore '/' letters).1,
    (Text.cutBefore '/' letters).2⟩
  have hvalueParts : parts.value = letters := hcut
  have hrestParts : parts.rest = rest := by rw [hrest, ← hvalueParts, HostParts.rest]
  refine ⟨parts, ?_, ⟨⟨hqualifier, hname, ?_⟩, ?_, hslash, htail⟩, ?_, htarget.symm, ?_⟩
  · rw [htoken, HostParts.letters, hrestParts]
  · rw [hrestParts]
    exact exists_hostValue?_iff.mp ⟨letters, hvalue⟩
  · rw [hrestParts]
    exact hseparator
  · rw [hvalueParts, ← hletters, String.toList_ofList]
  · rw [← hmask]
    exact HostMask.spelt_parse htail

/-- The grammar of the mechanisms that stand for hosts.  A token is one exactly if it begins like
one; it is read part by part, and its mask can be used exactly if it has one of the four forms. -/
theorem host_iff_heads_and_exists_parts (token : String) :
    ((∃ kind target mask value, parse token = .host kind target mask value) ↔
      ∃ (kind : HostKind) (qualifier name rest : List Char),
        token.toList = qualifier ++ name ++ rest ∧ kind.Heads qualifier name rest) ∧
    ∀ kind target mask value, parse token = .host kind target mask value →
      ∃ parts : HostParts, parts.letters = token.toList ∧ parts.Divide kind ∧
        value.toList = parts.value ∧ target = parts.target? ∧ mask.Spelt parts.mask :=
  ⟨exists_parse_eq_host_iff, fun _ _ _ _ => exists_parts⟩

/-- A token in which no part is missing. -/
theorem exists_parts_of_exchange :
    parse "+MX:mail.example/024//64" =
        .host .mx (some "mail.example") (.lengths (some 24) (some 64)) "mail.example/024//64" ∧
      ∃ parts : HostParts, parts.letters = "+MX:mail.example/024//64".toList ∧ parts.Divide .mx ∧
        "mail.example/024//64".toList = parts.value ∧ some "mail.example" = parts.target? ∧
        (HostMask.lengths (some 24) (some 64)).Spelt parts.mask := by
  have hparse : parse "+MX:mail.example/024//64" =
      .host .mx (some "mail.example") (.lengths (some 24) (some 64)) "mail.example/024//64" := by
    decide
  exact ⟨hparse, (host_iff_heads_and_exists_parts "+MX:mail.example/024//64").2 _ _ _ _ hparse⟩

end Term

end SenderPolicy
