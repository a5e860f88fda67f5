import SenderPolicy.Json.Value
import SenderPolicy.Json.Scan
import SenderPolicy.Proofs.Text.Numeral

/-!
# Strings and numbers in JSON are read as they are written

* `string_quoted`: the escapes of a string are undone.  A character is written by itself, behind a
  backslash or, if it is one of the other control characters, as a code of four digits; in each case
  the automaton is back between characters when it has been read.
* `number_toDigits`: a number that fits into 64 bits is read exactly, if what follows it does not go
  on with it (`Ends`).
-/

namespace SenderPolicy.Json

@[simp] theorem ok_bind {α β : Type} (a : α) (next : α → Except Fault β) :
    (Except.ok a >>= next) = next a := rfl

/-! ## Strings -/

/-- There is room for a code in front of which four characters stand. -/
theorem startCode_of_four (lead : Option Nat) (a b c d : Char) (rest : List Char) :
    startCode lead (a :: b :: c :: d :: rest) = .ok (.code lead []) := by
  have hcount : ∀ (c : Char) (cs : List Char), byteCount (c :: cs) = c.utf8Size + byteCount cs :=
    fun _ _ => rfl
  have ha := a.utf8Size_pos
  have hb := b.utf8Size_pos
  have hc := c.utf8Size_pos
  have hd := d.utf8Size_pos
  rw [startCode, if_neg]
  simp only [hcount]
  omega

/-- A control character is read from its code. -/
theorem afterCode_of_control {c : Char} (h : c.toNat < 0x20) :
    afterCode none (Numeral.value 16 [0, 0, c.toNat / 16, c.toNat % 16]) =
      .ok (some c, .plain) := by
  have hvalue : Numeral.value 16 [0, 0, c.toNat / 16, c.toNat % 16] = c.toNat := by
    simp only [Numeral.value, List.foldl_cons, List.foldl_nil]
    omega
  have htrailing : isTrailing c.toNat = false := by
    simp only [isTrailing, Bool.and_eq_false_iff, decide_eq_false_iff_not]
    omega
  have hleading : isLeading c.toNat = false := by
    simp only [isLeading, Bool.and_eq_false_iff, decide_eq_false_iff_not]
    omega
  simp [hvalue, afterCode, htrailing, hleading]

/-- One digit of a code that is not its last. -/
theorem scanString_code_cons {lead : Option Nat} {digits : List Nat} {c : Char} {d : Nat}
    (cs : List Char) (hd : Numeral.hexDigit? c = some d) (hlength : digits.length < 3) :
    scanString (.code lead digits) (c :: cs) = scanString (.code lead (digits ++ [d])) cs := by
  simp only [scanString, hd, if_pos hlength]

/-- A control character is read from its code, from the backslash on. -/
theorem scanString_controlCode {c : Char} (h : c.toNat < 0x20) (rest : List Char) :
    scanString .plain ('\\' :: 'u' :: '0' :: '0' :: Nat.digitChar (c.toNat / 16) ::
      Nat.digitChar (c.toNat % 16) :: rest) = do
        let (text, rest) ← scanString .plain rest
        return (c :: text, rest) := by
  have hzero : Numeral.hexDigit? '0' = some 0 := rfl
  have hhigh : Numeral.hexDigit? (Nat.digitChar (c.toNat / 16)) = some (c.toNat / 16) :=
    Numeral.hexDigit?_digitChar (by omega)
  have hlow : Numeral.hexDigit? (Nat.digitChar (c.toNat % 16)) = some (c.toNat % 16) :=
    Numeral.hexDigit?_digitChar (by omega)
  have hstart : ∀ cs, scanString .plain ('\\' :: 'u' :: cs) =
      startCode none cs >>= fun state => scanString state cs := fun _ => rfl
  rw [hstart, startCode_of_four]
  -- Three digits are gathered; the fourth makes the code complete.
  change scanString (.code none []) _ = _
  rw [scanString_code_cons _ hzero (by simp), scanString_code_cons _ hzero (by simp),
    scanString_code_cons _ hhigh (by simp)]
  simp only [scanString, hlow, List.nil_append, List.cons_append, List.length_cons, List.length_nil,
    Nat.lt_irrefl, if_false, afterCode_of_control h]
  rfl

/-- However a character is written, it is read as itself. -/
theorem scanString_escapeChar (c : Char) (rest : List Char) :
    scanString .plain (escapeChar c ++ rest) = do
      let (text, rest) ← scanString .plain rest
      return (c :: text, rest) := by
  have hshort : ∀ e d : Char, e ≠ 'u' → unescape? e = some d →
      scanString .plain ('\\' :: e :: rest) = do
        let (text, rest) ← scanString .plain rest
        return (d :: text, rest) := by
    intro e d hu he
    simp [scanString, hu, he]
  rw [escapeChar]
  split
  · next hc => exact hc ▸ hshort '"' '"' (by decide) rfl
  split
  · next hc => exact hc ▸ hshort '\\' '\\' (by decide) rfl
  split
  · next hc => exact hc ▸ hshort 'b' '\x08' (by decide) rfl
  split
  · next hc => exact hc ▸ hshort 'f' '\x0c' (by decide) rfl
  split
  · next hc => exact hc ▸ hshort 'n' '\n' (by decide) rfl
  split
  · next hc => exact hc ▸ hshort 'r' '\r' (by decide) rfl
  split
  · next hc => exact hc ▸ hshort 't' '\t' (by decide) rfl
  split
  · next hcontrol => exact scanString_controlCode hcontrol rest
  · next hquote hbackslash _ _ _ _ _ hplain =>
    simp [scanString, hquote, hbackslash, hplain]

theorem scanString_flatMap_escapeChar (cs rest : List Char) :
    scanString .plain (cs.flatMap escapeChar ++ '"' :: rest) = .ok (cs, rest) := by
  induction cs with
  | nil => simp [scanString]
  | cons c cs ih =>
    rw [List.flatMap_cons, List.append_assoc, scanString_escapeChar, ih]
    rfl

/-- A string is read as it is written, behind its opening quote. -/
theorem string_quoted (s : String) (rest : List Char) :
    Reader.string (s.toList.flatMap escapeChar ++ '"' :: rest) = .ok (s, rest) := by
  rw [Reader.string, scanString_flatMap_escapeChar]
  exact congrArg (fun s => Except.ok (s, rest)) String.ofList_toList

/-! ## Numbers -/

/-- The text does not go on with a number. -/
def Ends (rest : List Char) : Prop :=
  ∀ c, rest.head? = some c → c.isDigit = false ∧ c ≠ '.' ∧ c ≠ 'e' ∧ c ≠ 'E'

theorem ends_nil : Ends [] := nofun

theorem ends_cons {c : Char} (rest : List Char)
    (h : c.isDigit = false ∧ c ≠ '.' ∧ c ≠ 'e' ∧ c ≠ 'E') : Ends (c :: rest) := by
  intro d hd
  obtain rfl := Option.some.inj hd
  exact h

theorem leadingDigits_append {ds rest : List Char} (hds : ds.all Char.isDigit = true)
    (hrest : Ends rest) : leadingDigits (ds ++ rest) = (ds, rest) := by
  have hall : ∀ c ∈ ds, c.isDigit = true := List.all_eq_true.mp hds
  have hstop : rest.takeWhile Char.isDigit = [] ∧ rest.dropWhile Char.isDigit = rest := by
    cases rest with
    | nil => exact ⟨rfl, rfl⟩
    | cons c rest => simp [(hrest c rfl).1]
  rw [leadingDigits, List.takeWhile_append_of_pos hall, List.dropWhile_append_of_pos hall, hstop.1,
    hstop.2, List.append_nil]

theorem wholeDigits_toDigits {n : Nat} {rest : List Char} (hrest : Ends rest) (onEnd : Fault) :
    wholeDigits onEnd (Nat.toDigits 10 n ++ rest) = .ok (Nat.toDigits 10 n, rest) := by
  by_cases hn : n = 0
  · subst hn
    have hnot : (rest.head?.any Char.isDigit) = false := by
      cases rest with
      | nil => rfl
      | cons c rest => exact (hrest c rfl).1
    simp [wholeDigits, hnot]
  · have hhead : (Nat.toDigits 10 n).head? ≠ some '0' := Numeral.head?_toDigits_ne (by decide) hn
    have hdigits := leadingDigits_append (Numeral.all_isDigit_toDigits n) hrest
    have hall := Numeral.all_isDigit_toDigits n
    obtain ⟨c, cs, hcs⟩ := List.exists_cons_of_ne_nil (Nat.toDigits_ne_nil (n := n) (b := 10))
    rw [hcs] at hhead hdigits hall ⊢
    have hc : c ≠ '0' := fun heq => hhead (congrArg some heq)
    have hdigit : c.isDigit = true := List.all_eq_true.mp hall c (List.mem_cons_self ..)
    rw [List.cons_append] at hdigits ⊢
    rw [wholeDigits, if_pos hdigit, hdigits]
    exact hc

theorem fractionDigits_of_ends {rest : List Char} (hrest : Ends rest) (onEnd : Fault) :
    fractionDigits onEnd rest = .ok ([], rest) := by
  cases rest with
  | nil => rfl
  | cons c rest =>
    rw [fractionDigits]
    exact fun cs hpoint => (hrest c rfl).2.1 (List.cons.inj hpoint).1

theorem exponent?_of_ends {rest : List Char} (hrest : Ends rest) (onEnd : Fault) :
    exponent? onEnd rest = .ok (none, rest) := by
  cases rest with
  | nil => rfl
  | cons c rest =>
    have hc : ¬(c = 'e' ∨ c = 'E') := not_or.mpr (hrest c rfl).2.2
    simp only [exponent?, if_neg hc]

/-- Digits that make no number too large are taken in, all of them. -/
theorem extend_eq (n : Nat) (cs : List Char) (h : Nat.ofDigitChars 10 cs n ≤ maxWhole) :
    extend n cs = (Nat.ofDigitChars 10 cs n, cs.length) := by
  have hle : ∀ (cs : List Char) (n : Nat), n ≤ Nat.ofDigitChars 10 cs n := by
    intro cs n
    rw [Nat.ofDigitChars_eq_ofDigitChars_zero]
    have hone : 1 ≤ 10 ^ cs.length := Nat.one_le_pow _ _ (by decide)
    calc n = 1 * n := (Nat.one_mul n).symm
      _ ≤ 10 ^ cs.length * n := Nat.mul_le_mul_right n hone
      _ ≤ _ := Nat.le_add_right ..
  induction cs generalizing n with
  | nil => rfl
  | cons c cs ih =>
    have hcons : Nat.ofDigitChars 10 (c :: cs) n =
        Nat.ofDigitChars 10 cs (Nat.ofDigitChars 10 [c] n) := rfl
    rw [hcons] at h ⊢
    have hfits : ¬maxWhole < Nat.ofDigitChars 10 [c] n :=
      Nat.not_lt.mpr (Nat.le_trans (hle cs _) h)
    rw [extend]
    dsimp only
    rw [if_neg hfits, ih _ h]
    rfl

/-- Rounding to 53 digits does not double a number. -/
theorem roundToDouble_le (n : Nat) : roundToDouble n ≤ 2 * n := by
  have hunit : n ≠ 0 → 2 ^ (n.log2 - 52) ≤ n := fun hn =>
    Nat.le_trans (Nat.pow_le_pow_right (by decide) (Nat.sub_le ..)) (Nat.log2_self_le hn)
  have hquotient : n / 2 ^ (n.log2 - 52) * 2 ^ (n.log2 - 52) ≤ n := Nat.div_mul_le_self ..
  rw [roundToDouble]
  split
  · by_cases hn : n = 0
    · subst hn
      simp_all
    · have := hunit hn
      rw [Nat.add_mul, Nat.one_mul]
      omega
  · omega

/-- A number that fits into 64 bits is not too large for a double. -/
theorem isTooLarge_eq_false {n : Nat} (h : n ≤ maxWhole) : isTooLarge n 0 = false := by
  have hone : roundToDouble (10 ^ (0 : Int).toNat) = 1 := by decide
  have houter := roundToDouble_le (roundToDouble n * 1)
  have hinner := roundToDouble_le n
  have hpow : ∀ exponent, 66 ≤ exponent → 4 * maxWhole < 2 ^ exponent := fun exponent he =>
    Nat.lt_of_lt_of_le (by decide) (Nat.pow_le_pow_right (Nat.succ_pos 1) he)
  have hbound : 4 * maxWhole < doubleOverflow := hpow _ (by decide)
  rw [isTooLarge]
  split
  · rfl
  · rw [if_neg (by decide), hone, decide_eq_false_iff_not]
    omega

/-- A number that fits into 64 bits is read as it is written. -/
theorem number_toDigits {n : Nat} {rest : List Char} (h : n ≤ maxWhole) (hrest : Ends rest) :
    Reader.number (Nat.toDigits 10 n ++ rest) = .ok (some n, rest) := by
  have hdigits : extend 0 (Nat.toDigits 10 n) = (n, (Nat.toDigits 10 n).length) := by
    have heq := extend_eq 0 (Nat.toDigits 10 n)
    rw [Nat.ofDigitChars_ten_toDigits] at heq
    exact heq h
  have hpoint : rest.head? ≠ some '.' := fun hdot => (hrest '.' hdot).2.1 rfl
  have hwhole := wholeDigits_toDigits (n := n) hrest .truncated
  obtain ⟨c, cs, hcs⟩ := List.exists_cons_of_ne_nil (Nat.toDigits_ne_nil (n := n) (b := 10))
  have hsign : c ≠ '-' := by
    have hdigit := List.all_eq_true.mp (Numeral.all_isDigit_toDigits n) c
    rw [hcs] at hdigit
    rintro rfl
    exact absurd (hdigit (List.mem_cons_self ..)) (by decide)
  rw [hcs] at hwhole hdigits ⊢
  rw [List.cons_append] at hwhole ⊢
  simp only [Reader.number, scanNumber]
  split
  · next heq => exact absurd (List.cons.inj heq).1 hsign
  · rw [hwhole, ok_bind, fractionDigits_of_ends hrest, ok_bind, exponent?_of_ends hrest, ok_bind,
      hdigits]
    have hnone : extend n [] = (n, 0) := rfl
    have hexponent : (none : Option Int).getD 0 + ((c :: cs).length - (c :: cs).length) -
        ((0 : Nat) : Int) = 0 := by simp
    simp only [hnone, hexponent, isTooLarge_eq_false h]
    simp [hpoint]
    rfl

end SenderPolicy.Json
