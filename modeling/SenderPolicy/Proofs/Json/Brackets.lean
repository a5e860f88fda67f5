import Mathlib.Data.List.Forall2
import SenderPolicy.Json.Shape
import SenderPolicy.Proofs.Json.Lexical

/-!
# Reading past blanks and between brackets

A reader takes a text from the left, and a text is put together from the parts of a value, so what
is said about reading is always about a text with something behind it.  `Reader.bind_apply` takes
the first step of a reader off; `peek_append` and `separator_append` pass over the blanks that a
layout puts between the parts of a text (`Layout.Plain`).

* `exists_write_eq_cons`: how a value starts tells it from a blank, a closing bracket and null.
* `bracketed_separated`: texts that are separated by commas and that can be read as parts one after
  the other (`Turns`) are read as the parts of an array or an object.  The loop has a round for each
  of them, because each takes at least one character.
-/

namespace SenderPolicy.Json

/-! ## Single steps -/

namespace Reader

/-- A reader that succeeds hands its value and what is left to the next one. -/
theorem bind_apply {α β : Type} {reader : Reader α} {next : α → Reader β} {cs rest : List Char}
    {a : α} (h : reader cs = .ok (a, rest)) : (reader >>= next) cs = next a rest := by
  change (reader cs >>= fun found => next found.1 found.2) = next a rest
  rw [h]
  rfl

/-- Blanks in front of a character are passed over when one looks for it. -/
theorem peek_append {before : List Char} (rest : List Char) {c : Char}
    (hbefore : before.all isBlank = true) (hc : isBlank c = false) :
    peek (before ++ c :: rest) = .ok (c, c :: rest) := by
  have hdrop : (before ++ c :: rest).dropWhile isBlank = c :: rest := by
    rw [List.dropWhile_append_of_pos (List.all_eq_true.mp hbefore)]
    simp [hc]
  have hpeek : peek? (before ++ c :: rest) = .ok (some c, c :: rest) := by
    rw [peek?, hdrop]
    rfl
  exact bind_apply hpeek

theorem skip_cons (c : Char) (cs : List Char) : skip (c :: cs) = .ok ((), cs) := rfl

theorem expect_append (word rest : List Char) : expect word (word ++ rest) = .ok ((), rest) := by
  induction word with
  | nil => rfl
  | cons c word ih =>
    have hget : (get : Reader (List Char)) (c :: word ++ rest) =
      .ok (c :: word ++ rest, c :: (word ++ rest)) := rfl
    rw [expect, bind_apply hget]
    simp only [List.cons_append, if_pos]
    exact ih

theorem separator_append {before : List Char} (rest : List Char) {c : Char}
    (hbefore : before.all isBlank = true) (hc : isBlank c = false) :
    separator c (before ++ c :: rest) = .ok ((), rest) := by
  rw [separator, bind_apply (peek_append rest hbefore hc), if_pos rfl, skip_cons]

end Reader

open Reader

/-! ## Layouts -/

/-- The layout puts nothing but blanks between the parts of a text. -/
structure Layout.Plain (layout : Layout) : Prop where
  lineBreak : ∀ level, (layout.lineBreak level).all isBlank = true
  colon : ∃ blanks, blanks.all isBlank = true ∧ layout.colon = ':' :: blanks

theorem Layout.plain_compact : Layout.compact.Plain := ⟨fun _ => rfl, [], rfl, rfl⟩

theorem Layout.plain_pretty : Layout.pretty.Plain := by
  refine ⟨fun level => ?_, [' '], rfl, rfl⟩
  have hspaces : (List.replicate (2 * level) ' ').all isBlank = true := by
    rw [List.all_eq_true]
    rintro c hc
    rw [List.eq_of_mem_replicate hc]
    rfl
  exact hspaces

variable {layout : Layout} {level : Nat}

/-- Blanks and what follows them do not go on with a number, unless what follows does. -/
theorem ends_append {before rest : List Char} (hbefore : before.all isBlank = true)
    (hrest : Ends rest) : Ends (before ++ rest) := by
  cases before with
  | nil => exact hrest
  | cons c before =>
    have hc : isBlank c = true := List.all_eq_true.mp hbefore c (List.mem_cons_self ..)
    refine ends_cons _ ?_
    simp only [isBlank, Bool.or_eq_true, beq_iff_eq] at hc
    rcases hc with ((rfl | rfl) | rfl) | rfl <;> decide

/-- How a value starts: with no blank, no closing bracket, and with an `n` only if it is null. -/
theorem exists_write_eq_cons (layout : Layout) (level : Nat) (value : Json) :
    ∃ c cs, value.write layout level = c :: cs ∧ isBlank c = false ∧ c ≠ ']' ∧ c ≠ '}' ∧
      (c = 'n' → value = .null) := by
  cases value with
  | null => exact ⟨'n', _, rfl, rfl, by decide, by decide, fun _ => rfl⟩
  | bool b =>
    cases b with
    | true => exact ⟨'t', _, rfl, rfl, by decide, by decide, nofun⟩
    | false => exact ⟨'f', _, rfl, rfl, by decide, by decide, nofun⟩
  | num n =>
    obtain ⟨c, cs, hcs⟩ := List.exists_cons_of_ne_nil (Nat.toDigits_ne_nil (n := n) (b := 10))
    have hdigit : c.isDigit = true := by
      have hall := List.all_eq_true.mp (Numeral.all_isDigit_toDigits n) c
      exact hall (hcs ▸ List.mem_cons_self ..)
    have hne : ∀ d : Char, d.isDigit = false → c ≠ d := by
      rintro d hd rfl
      rw [hdigit] at hd
      exact Bool.noConfusion hd
    refine ⟨c, cs, hcs, ?_, hne _ rfl, hne _ rfl, fun hn => absurd hn (hne _ rfl)⟩
    simp [isBlank, hne]
  | str s => exact ⟨'"', _, rfl, rfl, by decide, by decide, nofun⟩
  | arr items =>
    cases items <;> exact ⟨'[', _, rfl, rfl, by decide, by decide, nofun⟩
  | obj members =>
    cases members <;> exact ⟨'{', _, rfl, rfl, by decide, by decide, nofun⟩

/-- Texts with a comma and a line break in front of each. -/
def following (layout : Layout) (level : Nat) (texts : List (List Char)) : List Char :=
  texts.flatMap fun text => ',' :: layout.lineBreak level ++ text

theorem length_le_following (layout : Layout) (level : Nat) (texts : List (List Char)) :
    texts.length ≤ (following layout level texts).length := by
  induction texts with
  | nil => exact Nat.zero_le _
  | cons text texts ih =>
    have hcons : following layout level (text :: texts) =
        ',' :: (layout.lineBreak level ++ text ++ following layout level texts) := by
      simp [following]
    rw [hcons]
    simp only [List.length_cons, List.length_append]
    omega

/-- Texts with a comma and a line break between them. -/
def separated (layout : Layout) (level : Nat) : List (List Char) → List Char
  | [] => []
  | text :: texts => text ++ following layout level texts

theorem writeItems_eq (items : List Json) :
    writeItems layout level items = separated layout level (items.map (write layout level)) := by
  induction items with
  | nil => rfl
  | cons item items ih =>
    cases items with
    | nil => simp [writeItems, separated, following]
    | cons next items => simp [writeItems, ih, separated, following]

/-- A member as it is written. -/
def writeMember (layout : Layout) (level : Nat) (pair : String × Json) : List Char :=
  quoted pair.1 ++ layout.colon ++ write layout level pair.2

theorem writeMembers_eq (members : List (String × Json)) :
    writeMembers layout level members =
      separated layout level (members.map (writeMember layout level)) := by
  induction members with
  | nil => rfl
  | cons pair members ih =>
    cases members with
    | nil => simp [writeMembers, separated, following, writeMember]
    | cons next members => simp [writeMembers, ih, separated, following, writeMember]

theorem write_arr (hlayout : layout.Plain) (level : Nat) (items : List Json) :
    ∃ before after, before.all isBlank = true ∧ after.all isBlank = true ∧
      (arr items).write layout level = '[' :: (before ++
        separated layout (level + 1) (items.map (write layout (level + 1))) ++ after ++ [']']) := by
  cases items with
  | nil => exact ⟨[], [], rfl, rfl, rfl⟩
  | cons item items =>
    refine ⟨_, _, hlayout.lineBreak (level + 1), hlayout.lineBreak level, ?_⟩
    rw [← writeItems_eq]
    simp [write]

theorem write_obj (hlayout : layout.Plain) (level : Nat) (members : List (String × Json)) :
    ∃ before after, before.all isBlank = true ∧ after.all isBlank = true ∧
      (obj members).write layout level = '{' :: (before ++
        separated layout (level + 1) (members.map (writeMember layout (level + 1))) ++ after ++
          ['}']) := by
  cases members with
  | nil => exact ⟨[], [], rfl, rfl, rfl⟩
  | cons pair members =>
    refine ⟨_, _, hlayout.lineBreak (level + 1), hlayout.lineBreak level, ?_⟩
    rw [← writeMembers_eq]
    simp [write]

/-! ## Parts between brackets -/

/-- The texts are read one after the other as parts, from one state to another. -/
inductive Turns {σ : Type} (close : Char) (part : σ → Reader σ) :
    σ → List (List Char) → σ → Prop
  | done (s : σ) : Turns close part s [] s
  | turn {s next final : σ} {c : Char} {text : List Char} {texts : List (List Char)}
      (hc : isBlank c = false ∧ c ≠ close)
      (hread : ∀ before rest, before.all isBlank = true → Ends rest →
        part s (before ++ (c :: text) ++ rest) = .ok (next, rest))
      (hturns : Turns close part next texts final) :
      Turns close part s ((c :: text) :: texts) final

/-- Whether a character is a closing bracket. -/
def Closes (close : Char) : Prop := close = ']' ∨ close = '}'

theorem Closes.isBlank_eq_false {close : Char} (hclose : Closes close) : isBlank close = false := by
  rcases hclose with rfl | rfl <;> rfl

theorem Closes.ends {close : Char} (hclose : Closes close) (rest : List Char) :
    Ends (close :: rest) := by
  rcases hclose with rfl | rfl <;> exact ends_cons rest (by decide)

section Parts

variable {σ : Type} {close : Char} {part : σ → Reader σ} {s final : σ} {texts : List (List Char)}

/-- The loop ends at the closing bracket. -/
theorem parts_close (hclose : Closes close) {after : List Char} (hafter : after.all isBlank = true)
    (rounds : Nat) (isFirst : Bool) (s : σ) (rest : List Char) :
    parts close part (rounds + 1) isFirst s (after ++ close :: rest) = .ok (s, rest) := by
  rw [parts, bind_apply (peek_append rest hafter hclose.isBlank_eq_false), if_pos rfl,
    bind_apply (skip_cons close rest)]
  rfl

theorem ends_following (layout : Layout) (level : Nat) (hclose : Closes close) {after : List Char}
    (hafter : after.all isBlank = true) (texts : List (List Char)) (rest : List Char) :
    Ends (following layout level texts ++ (after ++ close :: rest)) := by
  cases texts with
  | nil =>
    rw [following, List.flatMap_nil, List.nil_append]
    exact ends_append hafter (hclose.ends rest)
  | cons text texts => exact ends_cons _ (by decide)

/-- Parts that follow a first one: the induction is on the texts, and each round passes over a
comma and reads one of them. -/
theorem parts_following (hlayout : layout.Plain) (level : Nat) (hclose : Closes close)
    {after : List Char} (hafter : after.all isBlank = true) (rest : List Char)
    (hturns : Turns close part s texts final) :
    ∀ rounds, texts.length < rounds → parts close part rounds false s
      (following layout level texts ++ (after ++ close :: rest)) = .ok (final, rest) := by
  induction hturns with
  | done s =>
    rintro (_ | rounds) hrounds
    · exact absurd hrounds (Nat.not_lt_zero _)
    · exact parts_close hclose hafter rounds false s rest
  | @turn s next final c text texts hc hread hturns ih =>
    rintro (_ | rounds) hrounds
    · exact absurd hrounds (Nat.not_lt_zero _)
    have hcomma : ',' ≠ close := by rcases hclose with rfl | rfl <;> decide
    have hpart := hread _ _ (hlayout.lineBreak level)
      (ends_following layout level hclose hafter texts rest)
    have htext : following layout level ((c :: text) :: texts) ++ (after ++ close :: rest) =
        [] ++ ',' :: (layout.lineBreak level ++ (c :: text) ++
          (following layout level texts ++ (after ++ close :: rest))) := by simp [following]
    rw [htext, parts, bind_apply (peek_append _ rfl rfl), if_neg hcomma, if_neg Bool.false_ne_true,
      if_pos rfl, bind_apply (skip_cons _ _), bind_apply hpart]
    exact ih rounds (Nat.lt_of_succ_lt_succ hrounds)

/-- Parts between brackets are read as they are separated. -/
theorem parts_separated (hlayout : layout.Plain) (level : Nat) (hclose : Closes close)
    {before after : List Char} (hbefore : before.all isBlank = true)
    (hafter : after.all isBlank = true) (rest : List Char)
    (hturns : Turns close part s texts final) {rounds : Nat} (hrounds : texts.length < rounds) :
    parts close part rounds true s
      (before ++ separated layout level texts ++ after ++ close :: rest) = .ok (final, rest) := by
  obtain _ | rounds := rounds
  · exact absurd hrounds (Nat.not_lt_zero _)
  cases hturns with
  | done =>
    have hblank : (before ++ after).all isBlank = true := by
      rw [List.all_append, hbefore, hafter]
      rfl
    rw [separated, List.append_nil]
    exact parts_close hclose hblank rounds true s rest
  | @turn _ next _ c text texts hc hread hturns =>
    have hpart := hread [] _ rfl
      (ends_following layout level hclose hafter texts rest)
    have hrest := parts_following hlayout level hclose hafter rest hturns rounds
      (Nat.lt_of_succ_lt_succ hrounds)
    have htext : before ++ separated layout level ((c :: text) :: texts) ++ after ++ close :: rest =
        before ++ c :: (text ++ (following layout level texts ++ (after ++ close :: rest))) := by
      simp [separated]
    rw [htext, parts, bind_apply (peek_append _ hbefore hc.1), if_neg hc.2, if_pos rfl]
    exact (bind_apply hpart).trans hrest

/-- Each text takes at least a character, so that there is a round for each of them. -/
theorem bracketed_separated (hlayout : layout.Plain) (level : Nat) (hclose : Closes close)
    {before after : List Char} (hbefore : before.all isBlank = true)
    (hafter : after.all isBlank = true) (rest : List Char)
    (hturns : Turns close part s texts final) :
    bracketed close part s
      (before ++ separated layout level texts ++ after ++ close :: rest) = .ok (final, rest) := by
  have hlength : texts.length ≤ (separated layout level texts).length := by
    cases hturns with
    | done => exact Nat.zero_le _
    | @turn _ _ _ c text texts _ _ _ =>
      have hcount := length_le_following layout level texts
      simp only [separated, List.length_cons, List.length_append]
      omega
  have hget : (get : Reader (List Char)) (before ++ separated layout level texts ++ after ++
      close :: rest) = .ok (_, _) := rfl
  rw [bracketed, bind_apply hget]
  refine parts_separated hlayout level hclose hbefore hafter rest hturns ?_
  simp only [List.length_append, List.length_cons]
  omega

end Parts

/-- The items of an array are read one after the other, if each of them is read. -/
theorem turns_concat {reader : Reader Json} {written read : List Json}
    (h : List.Forall₂ (fun w r => ∀ before rest, before.all isBlank = true → Ends rest →
      reader (before ++ write layout level w ++ rest) = .ok (r, rest)) written read) :
    ∀ gathered, Turns ']' (fun items => return items ++ [← reader]) gathered
      (written.map (write layout level)) (gathered ++ read) := by
  induction h with
  | nil =>
    intro gathered
    rw [List.append_nil]
    exact .done gathered
  | @cons item value written read hitem _ ih =>
    intro gathered
    obtain ⟨c, cs, hcs, hblank, hclose, -⟩ := exists_write_eq_cons layout level item
    have hturns := ih (gathered ++ [value])
    rw [List.append_assoc, List.singleton_append] at hturns
    rw [List.map_cons, hcs]
    refine .turn ⟨hblank, hclose⟩ (fun before rest hbefore hrest => ?_) hturns
    have hread := hitem before rest hbefore hrest
    rw [hcs] at hread
    rw [bind_apply hread]
    rfl

end SenderPolicy.Json
