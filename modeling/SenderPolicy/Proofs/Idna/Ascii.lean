import SenderPolicy.Idna.Domain
import SenderPolicy.Proofs.Policy.LetterCase
import SenderPolicy.Proofs.Text.Fields

/-!
# What a name looks like in ASCII

Little has to be known of the tables to know how a name looks that is looked up.  A label that is
ASCII after the mapping stands as it is; any other label stands behind a marker and ends in a
digit of its encoding (`Label.Spelt`).  So the ends of the name are those of the mapped text,
except where a label at an end is encoded, and there nothing unusual can stand.

* `isDigit_of_getLast?_encode`: an encoding ends in a digit, as soon as there is something to
  encode.
* `exists_spelt_of_toAscii?`: the name is put together from labels that are spelt that way.
* `toAscii?_of_isAscii`: of a text that is ASCII nothing but the case of its letters changes, and
  in that form it is a name again.
-/

namespace SenderPolicy.Idna

/-! ## Encodings -/

namespace Punycode

/-- A digit of a number. -/
def IsDigit (c : Char) : Prop := ∃ d < 36, c = digitChar d

theorem IsDigit.isAscii {c : Char} (h : IsDigit c) : isAscii c = true := by
  obtain ⟨d, hd, rfl⟩ := h
  have hall : ∀ e ∈ List.range 36, Idna.isAscii (digitChar e) = true := by decide
  exact hall d (List.mem_range.mpr hd)

/-- No digit is a blank or a dot. -/
theorem IsDigit.ne_dot {c : Char} (h : IsDigit c) : Text.isBlank c = false ∧ c ≠ '.' := by
  obtain ⟨d, hd, rfl⟩ := h
  have hall : ∀ e ∈ List.range 36,
      Text.isBlank (digitChar e) = false ∧ digitChar e ≠ '.' := by decide
  exact hall d (List.mem_range.mpr hd)

/-- A number is one or more digits. -/
def IsNumber (cs : List Char) : Prop := cs ≠ [] ∧ ∀ c ∈ cs, IsDigit c

theorem isNumber_number (bias k n : Nat) : IsNumber (number bias k n) := by
  fun_induction number bias k n with
  | case1 k n t hlt =>
    have hle := threshold_le k bias
    refine ⟨List.cons_ne_nil _ _, List.forall_mem_singleton.mpr ⟨n, ?_, rfl⟩⟩
    omega
  | case2 k n t hge ih =>
    have hle : t ≤ 26 := threshold_le k bias
    have hmod : (n - t) % (36 - t) < 36 - t := Nat.mod_lt _ (by omega)
    refine ⟨List.cons_ne_nil _ _, List.forall_mem_cons.mpr ⟨⟨_, ?_, rfl⟩, ih.2⟩⟩
    omega

namespace Writer

variable {label : List Char} {basic codePoint : Nat} {w : Writer}

/-- What has been written is numbers. -/
def InNumbers (w : Writer) : Prop := ∀ part ∈ w.parts, IsNumber part

theorem InNumbers.visit (h : w.InNumbers) (c : Char) : (w.visit basic codePoint c).InNumbers := by
  unfold Writer.visit
  split
  · exact h
  · split
    · exact List.forall_mem_cons.mpr ⟨isNumber_number .., h⟩
    · exact h

/-- A character that is inserted leaves a number behind, and no number goes away. -/
theorem parts_visit_ne_nil {c : Char} (h : w.parts ≠ [] ∨ c.toNat = codePoint) :
    (w.visit basic codePoint c).parts ≠ [] := by
  unfold Writer.visit
  split
  · next hlt =>
    rcases h with h | h
    · exact h
    · omega
  · split
    · exact List.cons_ne_nil _ _
    · next hne => exact h.resolve_right hne

theorem InNumbers.foldl_visit (h : w.InNumbers) (cs : List Char) :
    (cs.foldl (Writer.visit basic codePoint) w).InNumbers := by
  induction cs generalizing w with
  | nil => exact h
  | cons c cs ih => exact ih (h.visit c)

theorem parts_foldl_visit_ne_nil {cs : List Char}
    (h : w.parts ≠ [] ∨ ∃ c ∈ cs, c.toNat = codePoint) :
    (cs.foldl (Writer.visit basic codePoint) w).parts ≠ [] := by
  induction cs generalizing w with
  | nil => exact h.resolve_right (by simp)
  | cons c cs ih =>
    rw [List.exists_mem_cons_iff] at h
    refine ih (or_assoc.mpr h |>.imp_left parts_visit_ne_nil)

theorem InNumbers.insertAll (h : w.InNumbers) (next : Nat) (codePoints : List Nat) :
    (Writer.insertAll label basic next codePoints w).InNumbers := by
  induction codePoints generalizing w next with
  | nil => exact h
  | cons codePoint codePoints ih =>
    have hstart : InNumbers { w with delta := w.delta + (codePoint - next) * (w.handled + 1) } := h
    rw [Writer.insertAll]
    refine ih ?_ (codePoint + 1)
    exact hstart.foldl_visit label

theorem parts_insertAll_ne_nil {next : Nat} {codePoints : List Nat}
    (h : w.parts ≠ [] ∨ ∃ codePoint ∈ codePoints, ∃ c ∈ label, c.toNat = codePoint) :
    (Writer.insertAll label basic next codePoints w).parts ≠ [] := by
  induction codePoints generalizing w next with
  | nil => exact h.resolve_right (by simp)
  | cons codePoint codePoints ih =>
    rw [List.exists_mem_cons_iff] at h
    exact ih (or_assoc.mpr h |>.imp_left parts_foldl_visit_ne_nil)

end Writer

/-- Something of a list is left when repetitions go. -/
theorem exists_mem_eraseReps {α : Type} [BEq α] {as : List α} (h : as ≠ []) :
    ∃ a ∈ as.eraseReps, a ∈ as := by
  have hloop : ∀ (as : List α) (a : α) (kept : List α),
      ∃ b ∈ List.eraseRepsBy.loop (· == ·) a as kept, b = a ∨ b ∈ as := by
    intro as
    induction as with
    | nil =>
      intro a kept
      exact ⟨a, by simp [List.eraseRepsBy.loop], Or.inl rfl⟩
    | cons next as ih =>
      intro a kept
      rw [List.eraseRepsBy.loop]
      split
      · obtain ⟨b, hb, hor⟩ := ih a kept
        exact ⟨b, hb, hor.imp_right (List.mem_cons_of_mem next)⟩
      · obtain ⟨b, hb, hor⟩ := ih next (a :: kept)
        exact ⟨b, hb, Or.inr (List.mem_cons.mpr hor)⟩
  cases as with
  | nil => exact absurd rfl h
  | cons a as =>
    obtain ⟨b, hb, hor⟩ := hloop as a []
    exact ⟨b, hb, List.mem_cons.mpr hor⟩

theorem exists_mem_codePoints {label : List Char} (h : label.all isAscii = false) :
    ∃ codePoint ∈ codePoints label, ∃ c ∈ label, c.toNat = codePoint := by
  obtain ⟨c, hc, hnot⟩ := List.all_eq_false.mp h
  have hlarge : 0x80 ≤ c.toNat := by simpa [isAscii] using hnot
  have hmem : ∀ n, n ∈ ((label.map Char.toNat).filter (0x80 ≤ ·)).mergeSort (· ≤ ·) ↔
      n ∈ label.map Char.toNat ∧ 0x80 ≤ n := by
    intro n
    rw [List.mem_mergeSort, List.mem_filter, decide_eq_true_iff]
  have hne := List.ne_nil_of_mem ((hmem c.toNat).mpr ⟨List.mem_map_of_mem hc, hlarge⟩)
  obtain ⟨n, hn, hsorted⟩ := exists_mem_eraseReps hne
  obtain ⟨d, hd, rfl⟩ := List.mem_map.mp ((hmem n).mp hsorted).1
  exact ⟨d.toNat, hn, d, hd, rfl⟩

/-- An encoding is the ASCII characters of the label, perhaps with a hyphen behind them, and then
numbers. -/
theorem exists_encode_eq (label : List Char) :
    ∃ front numbers, encode label = front ++ numbers.reverse.flatten ∧
      front.all isAscii = true ∧ (∀ number ∈ numbers, IsNumber number) ∧
      (label.all isAscii = false → numbers ≠ []) := by
  have hnumbers : ∀ basic, Writer.InNumbers ⟨[], 0, initialBias, basic⟩ :=
    fun basic => List.forall_mem_nil _
  refine ⟨_, _, rfl, ?_, (hnumbers _).insertAll _ _, fun h => ?_⟩
  · have hbasic : (label.filter (·.toNat < 0x80)).all isAscii = true := by
      rw [List.all_eq_true]
      exact fun c hc => (List.mem_filter.mp hc).2
    split
    · rfl
    · rw [List.all_append, hbasic]
      rfl
  · exact Writer.parts_insertAll_ne_nil (Or.inr (exists_mem_codePoints h))

theorem isAscii_encode (label : List Char) : (encode label).all isAscii = true := by
  obtain ⟨front, numbers, heq, hfront, hnumbers, -⟩ := exists_encode_eq label
  rw [heq, List.all_append, hfront, Bool.true_and, List.all_eq_true]
  intro c hc
  obtain ⟨number, hnumber, hc⟩ := List.mem_flatten.mp hc
  exact ((hnumbers number (List.mem_reverse.mp hnumber)).2 c hc).isAscii

/-- What is encoded comes last. -/
theorem isDigit_of_getLast?_encode {label : List Char} (h : label.all isAscii = false) :
    ∃ front c, encode label = front ++ [c] ∧ IsDigit c := by
  obtain ⟨front, numbers, heq, -, hnumbers, hne⟩ := exists_encode_eq label
  obtain ⟨last, rest, rfl⟩ := List.exists_cons_of_ne_nil (hne h)
  obtain ⟨hlast, hdigits⟩ := hnumbers last (List.mem_cons_self ..)
  refine ⟨front ++ rest.reverse.flatten ++ last.dropLast, last.getLast hlast, ?_,
    hdigits _ (List.getLast_mem hlast)⟩
  rw [heq, List.append_assoc _ last.dropLast, List.dropLast_append_getLast hlast]
  simp

end Punycode

/-! ## Labels -/

namespace Label

/-- How a mapped label is spelt when it is looked up. -/
inductive Spelt : List Char → List Char → Prop
  /-- An ASCII label is taken as it is. -/
  | plain {cs : List Char} (hcs : cs.all isAscii = true) : Spelt cs cs
  /-- Any other label stands behind a marker, and ends in a digit. -/
  | encoded {cs front : List Char} {c : Char} (hcs : cs.all isAscii = false)
      (hfront : front.all isAscii = true) (hc : Punycode.IsDigit c) :
      Spelt cs (marker ++ front ++ [c])

theorem spelt_of_read? {cs : List Char} {label : Label} (h : read? cs = some label) :
    Spelt cs label.ascii := by
  unfold read? at h
  split at h
  · next hmarker =>
    obtain ⟨unicode, hdecode, rfl⟩ := Option.map_eq_some_iff.mp h
    unfold decode? at hdecode
    split at hdecode
    · next hbounds =>
      refine Spelt.plain ?_
      rw [← List.take_append_drop 4 cs, List.all_append, hmarker, hbounds.1]
      rfl
    · cases hdecode
  · split at h
    · next hascii =>
      obtain rfl := Option.some.inj h
      exact Spelt.plain hascii
    · next hascii =>
      obtain ⟨ascii, hencode, rfl⟩ := Option.map_eq_some_iff.mp h
      unfold encode? at hencode
      split at hencode
      · obtain rfl := Option.some.inj hencode
        have hcs : cs.all isAscii = false := Bool.eq_false_iff.mpr hascii
        obtain ⟨front, c, heq, hc⟩ := Punycode.isDigit_of_getLast?_encode hcs
        have hall := Punycode.isAscii_encode cs
        rw [heq, List.all_append, Bool.and_eq_true] at hall
        show Spelt cs (marker ++ Punycode.encode cs)
        rw [heq, ← List.append_assoc]
        exact Spelt.encoded hcs hall.1 hc
      · cases hencode

theorem Spelt.isAscii {cs ascii : List Char} (h : Spelt cs ascii) : ascii.all isAscii = true := by
  cases h with
  | plain hcs => exact hcs
  | encoded _ hfront hc =>
    rw [List.all_append, List.all_append, hfront, List.all_cons, hc.isAscii]
    rfl

/-- ASCII labels are all taken as they are. -/
theorem eq_of_forall₂_spelt {pieces labels : List (List Char)}
    (h : List.Forall₂ Spelt pieces labels) (hascii : ∀ piece ∈ pieces, piece.all isAscii = true) :
    pieces = labels := by
  induction h with
  | nil => rfl
  | cons hspelt _ ih =>
    obtain ⟨hpiece, hpieces⟩ := List.forall_mem_cons.mp hascii
    rw [ih hpieces]
    cases hspelt with
    | plain _ => rfl
    | encoded hnot _ _ =>
      rw [hpiece] at hnot
      cases hnot

end Label

/-! ## Names -/

variable {cs name : List Char}

/-- A name that is looked up is put together from labels that are spelt for it. -/
theorem exists_spelt_of_toAscii? (h : toAscii? cs = some name) :
    ∃ mapped labels, mapChars? cs = some mapped ∧
      List.Forall₂ Label.Spelt ((compose mapped).splitOn '.') labels ∧
      name = ['.'].intercalate labels := by
  unfold toAscii? at h
  obtain ⟨labels, hlabels, h⟩ := Option.bind_eq_some_iff.mp h
  obtain ⟨mapped, hmapped, hlabels⟩ := Option.bind_eq_some_iff.mp hlabels
  split at h
  · obtain rfl := Option.some.inj h
    refine ⟨mapped, labels.map (·.ascii), hmapped, ?_, rfl⟩
    rw [List.forall₂_map_right_iff]
    exact (mapM_eq_some_iff.mp hlabels).imp fun piece label => Label.spelt_of_read?
  · cases h

/-- Names are looked up in ASCII. -/
theorem isAscii_of_toAscii? (h : toAscii? cs = some name) : name.all isAscii = true := by
  obtain ⟨mapped, labels, -, hlabels, rfl⟩ := exists_spelt_of_toAscii? h
  have hall : ∀ label ∈ labels, label.all isAscii = true :=
    forall_right_of_forall₂ (fun _ _ => Label.Spelt.isAscii) hlabels
  rw [List.all_eq_true]
  intro c hc
  refine Decidable.byContradiction fun hnot => ?_
  refine Text.not_mem_intercalate ?_ (fun label hlabel hmem => hnot ?_) hc
  · rintro rfl
    exact hnot rfl
  · exact List.all_eq_true.mp (hall label hlabel) c hmem

theorem mapChars?_of_isAscii (h : cs.all isAscii = true) :
    mapChars? cs = some (cs.map Char.toLower) := by
  have hmapM : cs.mapM mapChar? = some (cs.map fun c => [c.toLower]) := by
    rw [mapM_eq_some_iff, List.forall₂_map_right_iff, List.forall₂_same]
    exact fun c hc => mapChar?_of_isAscii (List.all_eq_true.mp h c hc)
  rw [mapChars?, hmapM]
  simp [← List.flatMap_def, ← List.map_eq_flatMap]

theorem isAscii_toLower {c : Char} (h : isAscii c = true) : isAscii c.toLower = true := by
  have hall : ∀ n < 0x80, isAscii (Char.ofNat n).toLower = true := by decide
  have hc := hall c.toNat (by simpa [isAscii] using h)
  rwa [Char.ofNat_toNat] at hc

theorem isAscii_map_toLower (h : cs.all isAscii = true) :
    (cs.map Char.toLower).all isAscii = true := by
  rw [List.all_map, List.all_eq_true]
  exact fun c hc => isAscii_toLower (List.all_eq_true.mp h c hc)

/-- Of ASCII only the case of letters changes. -/
theorem toAscii?_of_isAscii (hcs : cs.all isAscii = true) (h : toAscii? cs = some name) :
    name = cs.map Char.toLower := by
  obtain ⟨mapped, labels, hmapped, hlabels, rfl⟩ := exists_spelt_of_toAscii? h
  obtain rfl := Option.some.inj ((mapChars?_of_isAscii hcs).symm.trans hmapped)
  have hlower := isAscii_map_toLower hcs
  rw [compose_of_isAscii hlower] at hlabels
  have hpieces : ∀ piece ∈ (cs.map Char.toLower).splitOn '.', piece.all isAscii = true := by
    intro piece hpiece
    rw [List.all_eq_true]
    exact fun c hc => List.all_eq_true.mp hlower c (Text.mem_of_mem_splitOn hpiece c hc).1
  rw [← Label.eq_of_forall₂_spelt hlabels hpieces]
  exact List.intercalate_splitOn '.'

/-- In that form it is a name as well. -/
theorem toAscii?_map_toLower (hcs : cs.all isAscii = true) :
    toAscii? (cs.map Char.toLower) = toAscii? cs := by
  have hmap : mapChars? (cs.map Char.toLower) = mapChars? cs := by
    rw [mapChars?_of_isAscii hcs, mapChars?_of_isAscii (isAscii_map_toLower hcs),
      Text.map_toLower_toLower]
  rw [toAscii?, toAscii?, labels?, labels?, hmap]

end SenderPolicy.Idna
