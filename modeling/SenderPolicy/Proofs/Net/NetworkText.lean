import SenderPolicy.Proofs.Net.Made
import SenderPolicy.Proofs.Net.Spelling
import SenderPolicy.Proofs.Net.Written

/-!
# Networks are read as they are written

The text of a network is an address, a slash and a prefix length.  A reader forgives blanks around
the whole and around the address, a `+` and zeros in front of the length, and every spelling of the
address.  It is strict about everything else, bits set past the prefix among it.

* `Network.parts?_eq_some_iff`: which texts have the parts of a network.
* `Network.parse_text`, `Address.parse_text`: what is written is read back.  There are no blanks in
  it (`Address.foreign_of_isBlank`), and only one slash.
* `Network.reads_exactly_and_back`: the texts that are read, what becomes of the others, and that no
  two networks are written alike.
-/

namespace SenderPolicy

/-- Blanks are neither digits nor separators. -/
theorem Address.foreign_of_isBlank {c : Char} (h : Text.isBlank c = true) : Foreign c := by
  have hrange : c.toNat ≤ 0x20 ∨ 0x85 ≤ c.toNat := by
    simp [Text.isBlank] at h
    omega
  refine ⟨?_, ?_, ?_, ?_⟩
  · rw [← Bool.not_eq_true]
    intro hdigit
    have hvalue : 0x30 ≤ c.toNat ∧ c.toNat ≤ 0x39 := Char.isDigit_iff_toNat.mp hdigit
    omega
  · unfold Numeral.hexDigit?
    dsimp only
    rw [if_neg (by omega), if_neg (by omega), if_neg (by omega)]
  · rintro rfl
    exact absurd h (by decide)
  · rintro rfl
    exact absurd h (by decide)

theorem Address.isBlank_of_mem_chars {a : Address} {c : Char} (h : c ∈ a.chars) :
    Text.isBlank c = false := by
  rw [← Bool.not_eq_true]
  exact fun hblank => (denotes_chars a).not_mem (foreign_of_isBlank hblank) h

/-- An address is read as it is written, where blanks are forgiven as well. -/
theorem Address.parse_text (a : Address) : parse a.text = .ok a := by
  have hchars : a.text.toList = a.chars := String.toList_ofList
  rw [parse, hchars, Text.trimBlanks_eq_self fun c => isBlank_of_mem_chars, read?_chars]

namespace Network

/-! ## Parts -/

/-- An address, blanks around it forgiven, the only slash, and a prefix length. -/
inductive IsParts : List Char → Address → Nat → Prop where
  | intro {before after : List Char} {a : Address} {p : Nat} (hbefore : '/' ∉ before)
      (hafter : '/' ∉ after) (haddress : Address.Denotes (Text.trimBlanks before) a)
      (hlength : Numeral.IsCount maxPrefixLength after p) : IsParts (before ++ '/' :: after) a p

theorem slash_not_mem_of_isCount {bound n : Nat} {letters : List Char}
    (h : Numeral.IsCount bound letters n) : '/' ∉ letters := by
  cases h with
  | bare h _ => exact h.not_mem (by decide)
  | signed h _ => exact List.not_mem_cons_of_ne_of_not_mem (by decide) (h.not_mem (by decide))

theorem parts?_eq_some_iff {letters : List Char} {a : Address} {p : Nat} :
    parts? letters = some (a, p) ↔ IsParts letters a p := by
  unfold parts?
  constructor
  · intro h
    split at h
    · next address length hsplit =>
      obtain ⟨b, hb, h⟩ := Option.bind_eq_some_iff.mp h
      obtain ⟨q, hq, h⟩ := Option.bind_eq_some_iff.mp h
      obtain ⟨rfl, rfl⟩ := Prod.mk.inj (Option.some.inj h)
      have hdenotes := Address.read?_eq_some_iff.mp hb
      have hcount := Numeral.count?_eq_some_iff.mp hq
      have hslash : '/' ∉ address := by
        rw [← Text.mem_trimBlanks_iff (by decide)]
        exact hdenotes.not_mem (by decide)
      have hletters : ['/'].intercalate (letters.splitOn '/') = letters :=
        List.intercalate_splitOn '/'
      rw [hsplit, List.intercalate_cons_cons, List.intercalate_singleton, List.append_assoc]
        at hletters
      rw [← hletters]
      exact .intro hslash (slash_not_mem_of_isCount hcount) hdenotes hcount
    · cases h
  · intro h
    cases h with
    | intro hbefore hafter haddress hlength =>
      rw [List.splitOn_append_cons_self_of_not_mem hbefore, List.splitOn_eq_singleton hafter]
      dsimp only
      rw [Address.read?_eq_some_iff.mpr haddress, Numeral.count?_eq_some_iff.mpr hlength]
      rfl

/-! ## Reading back -/

theorem toList_text (n : Network) :
    n.text.toList = n.base.chars ++ '/' :: Nat.toDigits 10 n.prefixLength := by
  simp [text, Address.text]

theorem isBlank_of_mem_text {n : Network} {c : Char} (h : c ∈ n.text.toList) :
    Text.isBlank c = false := by
  rw [toList_text, List.mem_append, List.mem_cons] at h
  rcases h with hbase | rfl | hlength
  · exact Address.isBlank_of_mem_chars hbase
  · decide
  · have hdecimal := Numeral.decimal?_eq_some_iff.mp (Numeral.decimal?_toDigits n.prefixLength)
    rw [← Bool.not_eq_true]
    exact fun hblank => hdecimal.not_mem (Address.foreign_of_isBlank hblank).1 hlength

theorem isParts_text {n : Network} (hn : n.prefixLength ≤ maxPrefixLength) :
    IsParts n.text.toList n.base n.prefixLength := by
  have hdecimal := Numeral.decimal?_eq_some_iff.mp (Numeral.decimal?_toDigits n.prefixLength)
  have hcount := Numeral.IsCount.bare hdecimal hn
  have hdenotes := Address.denotes_chars n.base
  rw [toList_text]
  refine .intro (hdenotes.not_mem (by decide)) (slash_not_mem_of_isCount hcount) ?_ hcount
  rwa [Text.trimBlanks_eq_self fun c => Address.isBlank_of_mem_chars]

/-- A canonical network is read as it is written. -/
theorem parse_text {n : Network} (hn : n.Canonical) : parse n.text = .ok n := by
  have hlength : n.prefixLength ≤ maxPrefixLength := by
    have hwidth := Word.width_le n.base.family
    have hfits := hn.1
    unfold maxPrefixLength
    omega
  rw [parse_eq_ok_iff, Text.trimBlanks_eq_self fun c => isBlank_of_mem_text]
  exact ⟨parts?_eq_some_iff.mpr (isParts_text hlength), hn⟩

/-! ## All texts -/

/-- What becomes of a text that is read as a network. -/
structure ReadExactly (text : String) : Prop where
  /-- It is read as it is meant, if it has the parts of a network, the prefix fits the family, and no
  bit is set past it. -/
  ok_iff : ∀ a p, parse text = .ok ⟨a, p⟩ ↔ IsParts (Text.trimBlanks text.toList) a p ∧
    p ≤ a.family.width ∧ ∀ i, p ≤ i → i < a.family.width → a.bit i = false
  /-- Otherwise it is refused, and named as it was given. -/
  error_eq : ∀ e, parse text = .error e → e = .invalidNetwork text

theorem readExactly (text : String) : ReadExactly text where
  ok_iff a p := by
    rw [parse_eq_ok_iff, parts?_eq_some_iff, ← Address.truncate_eq_self_iff_bit]
    rfl
  error_eq e h := by
    unfold parse at h
    split at h
    · cases h
      rfl
    · split at h
      · cases h
      · cases h
        rfl

/-- The texts that denote networks are read exactly, and what is written is read back; so no two
networks are written alike. -/
theorem reads_exactly_and_back (text : String) (a : Address) {b c : Address} {m n : Network}
    (hm : MadeFrom b m) (hn : MadeFrom c n) :
    ReadExactly text ∧ Address.parse a.text = .ok a ∧ parse n.text = .ok n ∧
      (m.text = n.text → m = n) := by
  have hreadm := parse_text hm.sound.canonical
  have hreadn := parse_text hn.sound.canonical
  refine ⟨readExactly text, a.parse_text, hreadn, fun htext => ?_⟩
  rw [htext, hreadn] at hreadm
  exact (Except.ok.inj hreadm).symm

/-- A text with blanks and zeros to spare, and the networks ::ffff:192.0.2.0/120 and
::ffff:192.0.2.0/128. -/
theorem reads_exactly_and_back_of_mapped :
    MadeFrom (.ofNat .v6 0xFFFFC00002FF) ⟨.ofNat .v6 0xFFFFC0000200, 120⟩ ∧
    MadeFrom (.ofNat .v6 0xFFFFC0000200) (host (.ofNat .v6 0xFFFFC0000200)) ∧
    ReadExactly "\t::ffff:192.0.2.0 /+0120" ∧
    Address.parse (Address.ofNat .v6 0xFFFFC0000200).text = .ok (.ofNat .v6 0xFFFFC0000200) ∧
    parse (host (.ofNat .v6 0xFFFFC0000200)).text = .ok (host (.ofNat .v6 0xFFFFC0000200)) ∧
    text ⟨.ofNat .v6 0xFFFFC0000200, 120⟩ ≠ (host (.ofNat .v6 0xFFFFC0000200)).text := by
  have hmask : mask (.ofNat .v6 0xFFFFC00002FF) 120 true =
      .ok ⟨.ofNat .v6 0xFFFFC0000200, 120⟩ := rfl
  have hm := MadeFrom.mask hmask
  have hn := MadeFrom.host (.ofNat .v6 0xFFFFC0000200)
  obtain ⟨hread, haddress, hnetwork, htext⟩ :=
    reads_exactly_and_back "\t::ffff:192.0.2.0 /+0120" (.ofNat .v6 0xFFFFC0000200) hm hn
  exact ⟨hm, hn, hread, haddress, hnetwork, fun h => absurd (htext h) (by decide)⟩

example : parse "\t::ffff:192.0.2.0 /+0120" = .ok ⟨.ofNat .v6 0xFFFFC0000200, 120⟩ := rfl

end Network

end SenderPolicy
