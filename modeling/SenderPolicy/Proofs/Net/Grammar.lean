import SenderPolicy.Net.Address.Parser
import SenderPolicy.Proofs.Text.Numeral

/-!
# The grammar of addresses

Which texts are addresses, and of which address each of them is one, is said here without a reader:
an octet and a group by their digits, an address in decimal by its four octets, and an address in
groups by the two ways to lay out eight of them.  `read?_eq_some_iff` says that the reader takes
these texts and no others, and reads them as they are meant.

The reader decides at every turn what a text can be, and it has to be shown that it decides rightly.
There are three such turns.

* A text is tried as four octets first, and so is the last field between colons.  Four octets have
  dots between them (`IsQuad.dot_mem`), and neither eight groups nor a group can be mistaken for
  them.
* The cut is made at the first `::`.  Fields are not empty and hold no colon (`IsTail.proper`), so
  in front of the `::` that was meant there is none.
* Groups that are left out are zeros, as many as are missing from eight.
-/

namespace SenderPolicy

namespace Address

/-! ## The grammar -/

/-- One to three decimal digits, without a zero in front, of value at most 255. -/
structure IsOctet (letters : List Char) (n : Nat) : Prop where
  isDecimal : Numeral.IsDecimal letters n
  length_le : letters.length ≤ 3
  length_eq_of_zero : letters.head? = some '0' → letters.length = 1
  le : n ≤ 255

/-- Four octets with dots between them. -/
structure IsQuad (letters : List Char) (octets : List Nat) : Prop where
  length_eq : octets.length = 4
  exists_fields : ∃ fields, letters = ['.'].intercalate fields ∧ List.Forall₂ IsOctet fields octets

/-- One to four hexadecimal digits. -/
structure IsGroup (letters : List Char) (n : Nat) : Prop where
  isHexadecimal : Numeral.IsHexadecimal letters n
  length_le : letters.length ≤ 4

/-- Fields that are groups, of which the last one may be four octets, which are two groups. -/
inductive IsTail : List (List Char) → List Nat → Prop where
  | nil : IsTail [] []
  | quad {letters : List Char} {a b c d : Nat} (h : IsQuad letters [a, b, c, d]) :
      IsTail [letters] [a * 256 + b, c * 256 + d]
  | cons {field : List Char} {g : Nat} {fields : List (List Char)} {groups : List Nat}
      (h : IsGroup field g) (htail : IsTail fields groups) : IsTail (field :: fields) (g :: groups)

/-- Eight groups with colons between them, or fewer on the two sides of a `::`, which stands for
zeros.  Only the groups at the end may be written as octets. -/
inductive IsEight : List Char → List Nat → Prop where
  | full {fields : List (List Char)} {groups : List Nat} (h : IsTail fields groups)
      (hlength : groups.length = 8) : IsEight ([':'].intercalate fields) groups
  | shortened {front back : List (List Char)} {before after : List Nat}
      (hfront : List.Forall₂ IsGroup front before) (hback : IsTail back after)
      (hroom : before.length + after.length ≤ 7) :
      IsEight ([':'].intercalate front ++ "::".toList ++ [':'].intercalate back)
        (before ++ List.replicate (8 - before.length - after.length) 0 ++ after)

/-- The letters are an address: its octets, or its groups. -/
inductive Denotes : List Char → Address → Prop where
  | v4 {letters : List Char} {a : Address} (hfamily : a.family = .v4)
      (h : IsQuad letters a.octets) : Denotes letters a
  | v6 {letters : List Char} {a : Address} (hfamily : a.family = .v6)
      (h : IsEight letters a.groups) : Denotes letters a

/-! ## Characters of the grammar -/

section

variable {letters : List Char} {c : Char}

theorem IsQuad.forall_le {octets : List Nat} (h : IsQuad letters octets) :
    ∀ n ∈ octets, n < 256 := by
  obtain ⟨fields, -, hoctets⟩ := h.exists_fields
  exact forall_right_of_forall₂ (fun field n hn => Nat.lt_succ_of_le hn.le) hoctets

theorem IsQuad.dot_mem {octets : List Nat} (h : IsQuad letters octets) : '.' ∈ letters := by
  obtain ⟨fields, rfl, hoctets⟩ := h.exists_fields
  refine Text.sep_mem_intercalate ?_
  rw [hoctets.length_eq, h.length_eq]
  decide

theorem IsQuad.not_mem {octets : List Nat} (h : IsQuad letters octets)
    (hdigit : c.isDigit = false) (hdot : c ≠ '.') : c ∉ letters := by
  obtain ⟨fields, rfl, hoctets⟩ := h.exists_fields
  exact Text.not_mem_intercalate hdot
    (forall_of_forall₂ (fun field n hn => hn.isDecimal.not_mem hdigit) hoctets)

/-- The character is no digit of either base and no separator. -/
def Foreign (c : Char) : Prop :=
  c.isDigit = false ∧ Numeral.hexDigit? c = none ∧ c ≠ '.' ∧ c ≠ ':'

instance (c : Char) : Decidable (Foreign c) := inferInstanceAs (Decidable (_ ∧ _))

theorem IsTail.not_mem {fields : List (List Char)} {groups : List Nat} (h : IsTail fields groups)
    (hdigit : c.isDigit = false) (hhex : Numeral.hexDigit? c = none) (hdot : c ≠ '.') :
    ∀ field ∈ fields, c ∉ field := by
  induction h with
  | nil => exact List.forall_mem_nil _
  | quad h => exact List.forall_mem_singleton.mpr (h.not_mem hdigit hdot)
  | cons h _ ih => exact List.forall_mem_cons.mpr ⟨h.isHexadecimal.not_mem hhex, ih⟩

theorem IsEight.not_mem {groups : List Nat} (h : IsEight letters groups) (hc : Foreign c) :
    c ∉ letters := by
  obtain ⟨hdigit, hhex, hdot, hcolon⟩ := hc
  cases h with
  | full h _ => exact Text.not_mem_intercalate hcolon (h.not_mem hdigit hhex hdot)
  | shortened hfront hback _ =>
    have hbefore := Text.not_mem_intercalate hcolon
      (forall_of_forall₂ (fun field g hg => hg.isHexadecimal.not_mem hhex) hfront)
    have hafter := Text.not_mem_intercalate hcolon (hback.not_mem hdigit hhex hdot)
    simp [hbefore, hafter, hcolon]

/-- Addresses are written with digits, dots and colons. -/
theorem Denotes.not_mem {a : Address} (h : Denotes letters a) (hc : Foreign c) : c ∉ letters := by
  cases h with
  | v4 _ h => exact h.not_mem hc.1 hc.2.2.1
  | v6 _ h => exact h.not_mem hc

end

/-! ## Octets -/

theorem octet?_eq_some_iff {letters : List Char} {n : Nat} :
    octet? letters = some n ↔ IsOctet letters n := by
  unfold octet?
  constructor
  · intro h
    split at h
    · next hshape =>
      obtain ⟨hdecimal, hle⟩ := Option.filter_eq_some_iff.mp h
      exact ⟨Numeral.decimal?_eq_some_iff.mp hdecimal, hshape.1, hshape.2, by simpa using hle⟩
    · cases h
  · intro h
    rw [if_pos ⟨h.length_le, h.length_eq_of_zero⟩, Numeral.decimal?_eq_some_iff.mpr h.isDecimal]
    simp [h.le]

theorem dottedQuad?_eq_some_iff {letters : List Char} {octets : List Nat} :
    dottedQuad? letters = some octets ↔ IsQuad letters octets := by
  rw [dottedQuad?, Option.filter_eq_some_iff, mapM_eq_some_iff]
  simp only [octet?_eq_some_iff, decide_eq_true_eq]
  constructor
  · rintro ⟨hfields, hlength⟩
    exact ⟨hlength, _, (List.intercalate_splitOn '.').symm, hfields⟩
  · intro h
    obtain ⟨fields, rfl, hfields⟩ := h.exists_fields
    have hlength : fields.length = 4 := hfields.length_eq.trans h.length_eq
    have hdots : ∀ field ∈ fields, '.' ∉ field :=
      forall_of_forall₂ (fun field n hn => hn.isDecimal.not_mem (by decide)) hfields
    rw [List.splitOn_intercalate '.' hdots (List.ne_nil_of_length_eq_add_one hlength)]
    exact ⟨hfields, h.length_eq⟩

/-- What has no dots in it is no four octets. -/
theorem dottedQuad?_eq_none {letters : List Char} (h : '.' ∉ letters) :
    dottedQuad? letters = none := by
  rw [Option.eq_none_iff_forall_ne_some]
  exact fun octets hoctets => h (dottedQuad?_eq_some_iff.mp hoctets).dot_mem

/-! ## Groups -/

theorem group?_eq_some_iff {letters : List Char} {n : Nat} :
    group? letters = some n ↔ IsGroup letters n := by
  unfold group?
  by_cases hlength : letters.length ≤ 4
  · rw [if_pos hlength, Numeral.hexadecimal?_eq_some_iff]
    exact ⟨fun h => ⟨h, hlength⟩, fun h => h.isHexadecimal⟩
  · rw [if_neg hlength]
    exact ⟨nofun, fun h => absurd h.length_le hlength⟩

theorem IsGroup.lt {letters : List Char} {n : Nat} (h : IsGroup letters n) : n < 65536 :=
  Nat.lt_of_lt_of_le h.isHexadecimal.lt (Nat.pow_le_pow_right (by decide) h.length_le)

/-- Four octets are two groups. -/
theorem digits_value_quad {a b c d : Nat} (h : ∀ n ∈ [a, b, c, d], n < 256) :
    Numeral.digits 65536 2 (Numeral.value 256 [a, b, c, d]) = [a * 256 + b, c * 256 + d] := by
  simp only [List.forall_mem_cons] at h
  simp only [Numeral.digits, Numeral.value, List.foldl, List.nil_append, List.cons_append,
    List.cons.injEq, and_true]
  omega

theorem IsGroup.dottedQuad?_eq_none {letters : List Char} {n : Nat} (h : IsGroup letters n) :
    dottedQuad? letters = none :=
  Address.dottedQuad?_eq_none (h.isHexadecimal.not_mem (by decide))

/-- The fields that the reader takes are fields of the grammar. -/
theorem IsTail.of_groupsThenQuad? {fields : List (List Char)} {groups : List Nat}
    (h : groupsThenQuad? fields = some groups) : IsTail fields groups := by
  fun_induction groupsThenQuad? fields generalizing groups with
  | case1 =>
    obtain rfl := Option.some.inj h
    exact .nil
  | case2 letters octets hoctets =>
    obtain rfl := Option.some.inj h
    have hquad := dottedQuad?_eq_some_iff.mp hoctets
    obtain ⟨a, b, c, d, rfl⟩ : ∃ a b c d, octets = [a, b, c, d] := by
      match octets, hquad.length_eq with
      | [a, b, c, d], _ => exact ⟨a, b, c, d, rfl⟩
    rw [digits_value_quad hquad.forall_le]
    exact .quad hquad
  | case3 letters _ =>
    obtain ⟨g, hg, rfl⟩ := Option.map_eq_some_iff.mp h
    exact .cons (group?_eq_some_iff.mp hg) .nil
  | case4 field fields _ ih =>
    obtain ⟨g, hg, h⟩ := Option.bind_eq_some_iff.mp h
    obtain ⟨rest, hrest, h⟩ := Option.bind_eq_some_iff.mp h
    obtain rfl := Option.some.inj h
    exact .cons (group?_eq_some_iff.mp hg) (ih hrest)

/-- The reader takes all of them, though it tries every last field as octets first. -/
theorem IsTail.groupsThenQuad?_eq {fields : List (List Char)} {groups : List Nat}
    (h : IsTail fields groups) : groupsThenQuad? fields = some groups := by
  induction h with
  | nil => rfl
  | quad h =>
    rw [groupsThenQuad?, dottedQuad?_eq_some_iff.mpr h]
    exact congrArg some (digits_value_quad h.forall_le)
  | cons h htail ih =>
    cases htail with
    | nil =>
      rw [groupsThenQuad?, h.dottedQuad?_eq_none, group?_eq_some_iff.mpr h]
      rfl
    | quad _ | cons _ _ =>
      rw [groupsThenQuad?, group?_eq_some_iff.mpr h, ih]
      · rfl
      · exact List.cons_ne_nil _ _

/-! ## Fields between colons -/

theorem intercalate_colonFields (letters : List Char) :
    [':'].intercalate (colonFields letters) = letters := by
  unfold colonFields
  split
  · next hnil => rw [hnil, List.intercalate_nil]
  · exact List.intercalate_splitOn ':'

theorem colonFields_intercalate {fields : List (List Char)}
    (h : ∀ field ∈ fields, field ≠ [] ∧ ':' ∉ field) :
    colonFields ([':'].intercalate fields) = fields := by
  by_cases hnil : fields = []
  · rw [hnil]
    rfl
  · have hsplit := List.splitOn_intercalate ':' (fun field hfield => (h field hfield).2) hnil
    rw [colonFields, if_neg, hsplit]
    intro hempty
    rw [hempty, List.splitOn_nil] at hsplit
    refine (h [] ?_).1 rfl
    rw [← hsplit]
    exact List.mem_singleton_self _

theorem IsGroup.proper {field : List Char} {g : Nat} (h : IsGroup field g) :
    field ≠ [] ∧ ':' ∉ field :=
  ⟨h.isHexadecimal.ne_nil, h.isHexadecimal.not_mem (by decide)⟩

/-- The fields of an address are not empty and hold no colon. -/
theorem IsTail.proper {fields : List (List Char)} {groups : List Nat} (h : IsTail fields groups) :
    ∀ field ∈ fields, field ≠ [] ∧ ':' ∉ field := by
  induction h with
  | nil => exact List.forall_mem_nil _
  | quad h =>
    refine List.forall_mem_singleton.mpr ⟨List.ne_nil_of_mem h.dot_mem, ?_⟩
    exact h.not_mem (by decide) (by decide)
  | cons h _ ih => exact List.forall_mem_cons.mpr ⟨h.proper, ih⟩

/-- A field stands for one group, or for two at the end. -/
theorem IsTail.length_le {fields : List (List Char)} {groups : List Nat}
    (h : IsTail fields groups) : groups.length ≤ fields.length + 1 := by
  induction h with
  | nil => simp
  | quad h => simp
  | cons h _ ih => simpa using ih

theorem IsTail.forall_lt {fields : List (List Char)} {groups : List Nat}
    (h : IsTail fields groups) : ∀ g ∈ groups, g < 65536 := by
  induction h with
  | nil => exact List.forall_mem_nil _
  | quad h =>
    have hle := h.forall_le
    simp only [List.forall_mem_cons] at hle ⊢
    refine ⟨?_, ?_, List.forall_mem_nil _⟩ <;> omega
  | cons h _ ih => exact List.forall_mem_cons.mpr ⟨h.lt, ih⟩

/-! ## Eight groups -/

theorem IsEight.of_eightGroups? {letters : List Char} {groups : List Nat}
    (h : eightGroups? letters = some groups) : IsEight letters groups := by
  rw [eightGroups?] at h
  split at h
  · obtain ⟨hgroups, hlength⟩ := Option.filter_eq_some_iff.mp h
    rw [← intercalate_colonFields letters]
    exact .full (.of_groupsThenQuad? hgroups) (by simpa using hlength)
  · next before after hcut =>
    obtain ⟨head, hhead, h⟩ := Option.bind_eq_some_iff.mp h
    obtain ⟨tail, htail, h⟩ := Option.bind_eq_some_iff.mp h
    split at h
    · next hroom =>
      obtain rfl := Option.some.inj h
      have hfront := mapM_eq_some_iff.mp hhead
      simp only [group?_eq_some_iff] at hfront
      have height := IsEight.shortened hfront (.of_groupsThenQuad? htail) hroom
      rw [intercalate_colonFields, intercalate_colonFields] at height
      rw [Text.eq_append_of_cutAtDouble hcut]
      simpa using height
    · cases h

theorem IsEight.eightGroups?_eq {letters : List Char} {groups : List Nat}
    (h : IsEight letters groups) : eightGroups? letters = some groups := by
  cases h with
  | full h hlength =>
    rw [eightGroups?, (Text.cutAtDouble_intercalate h.proper).1]
    dsimp only
    rw [colonFields_intercalate h.proper, h.groupsThenQuad?_eq, Option.filter_some,
      if_pos (by simpa using hlength)]
  | @shortened front back before after hfront hback hroom =>
    have hproper : ∀ field ∈ front, field ≠ [] ∧ ':' ∉ field :=
      forall_of_forall₂ (fun field g hg => hg.proper) hfront
    obtain ⟨hnone, hlast⟩ := Text.cutAtDouble_intercalate hproper
    have hread : front.mapM group? = some before := by
      rw [mapM_eq_some_iff]
      exact hfront.imp fun field g hg => group?_eq_some_iff.mpr hg
    have hletters : [':'].intercalate front ++ "::".toList ++ [':'].intercalate back =
        [':'].intercalate front ++ ':' :: ':' :: [':'].intercalate back := by simp
    rw [hletters, eightGroups?, Text.cutAtDouble_append _ hnone hlast]
    dsimp only
    rw [colonFields_intercalate hproper, colonFields_intercalate hback.proper, hread,
      hback.groupsThenQuad?_eq]
    simp only [Option.bind_eq_bind, Option.bind_some, if_pos hroom]

/-- What the letters of an IPv6 address come to is eight groups. -/
theorem IsEight.length_eq {letters : List Char} {groups : List Nat} (h : IsEight letters groups) :
    groups.length = 8 :=
  length_of_eightGroups?_eq_some h.eightGroups?_eq

theorem IsEight.forall_lt {letters : List Char} {groups : List Nat} (h : IsEight letters groups) :
    ∀ g ∈ groups, g < 65536 := by
  cases h with
  | full h _ => exact h.forall_lt
  | @shortened front back before after hfront hback _ =>
    have hbefore : ∀ g ∈ before, g < 65536 :=
      forall_right_of_forall₂ (fun field g hg => hg.lt) hfront
    simp only [List.forall_mem_append, List.mem_replicate]
    refine ⟨⟨hbefore, ?_⟩, hback.forall_lt⟩
    rintro g ⟨-, rfl⟩
    decide

/-- Eight groups are written with a colon, whatever is left out. -/
theorem IsEight.colon_mem {letters : List Char} {groups : List Nat} (h : IsEight letters groups) :
    ':' ∈ letters := by
  cases h with
  | full h hlength =>
    have hle := h.length_le
    exact Text.sep_mem_intercalate (by omega)
  | shortened _ _ _ => simp

/-! ## Addresses -/

/-- The octets of an address are those that it is made of. -/
theorem octets_ofNat {f : Family} {ns : List Nat} (hlength : ns.length = f.width / 8)
    (h : ∀ n ∈ ns, n < 256) : (ofNat f (Numeral.value 256 ns)).octets = ns := by
  have hlt := Numeral.value_lt h
  have hbits : 256 ^ ns.length = 2 ^ f.width := by
    rw [hlength]
    cases f <;> rfl
  rw [octets, bits_ofNat (hbits ▸ hlt), family_ofNat, ← hlength]
  exact Numeral.digits_value h

theorem groups_ofNat {f : Family} {ns : List Nat} (hlength : ns.length = f.width / 16)
    (h : ∀ n ∈ ns, n < 65536) : (ofNat f (Numeral.value 65536 ns)).groups = ns := by
  have hlt := Numeral.value_lt h
  have hbits : 65536 ^ ns.length = 2 ^ f.width := by
    rw [hlength]
    cases f <;> rfl
  rw [groups, bits_ofNat (hbits ▸ hlt), family_ofNat, ← hlength]
  exact Numeral.digits_value h

/-- The texts that are read as addresses are those of the grammar. -/
theorem read?_eq_some_iff {letters : List Char} {a : Address} :
    read? letters = some a ↔ Denotes letters a := by
  unfold read?
  constructor
  · intro h
    split at h
    · next octets hoctets =>
      obtain rfl := Option.some.inj h
      have hquad := dottedQuad?_eq_some_iff.mp hoctets
      refine .v4 rfl ?_
      rwa [octets_ofNat hquad.length_eq hquad.forall_le]
    · obtain ⟨groups, hgroups, rfl⟩ := Option.map_eq_some_iff.mp h
      have height := IsEight.of_eightGroups? hgroups
      refine .v6 rfl ?_
      rwa [groups_ofNat height.length_eq height.forall_lt]
  · intro h
    cases h with
    | v4 hfamily h =>
      rw [dottedQuad?_eq_some_iff.mpr h]
      dsimp only
      rw [value_octets, ← hfamily, ofNat_bits]
    | v6 hfamily h =>
      have hquad : dottedQuad? letters = none := by
        rw [Option.eq_none_iff_forall_ne_some]
        intro octets hoctets
        exact (dottedQuad?_eq_some_iff.mp hoctets).not_mem (by decide) (by decide) h.colon_mem
      rw [hquad, h.eightGroups?_eq]
      dsimp only [Option.map_some]
      rw [value_groups, ← hfamily, ofNat_bits]

end Address

end SenderPolicy
