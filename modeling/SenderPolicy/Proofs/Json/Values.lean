import SenderPolicy.Proofs.Json.Reading

/-!
# Any JSON value is read as it is written

The types of this library are read against their shapes.  Here is a reader that takes any value as
it comes (`Reader.value`, `parse`): the members of an object in the order of the text, and whole
numbers of any size.  There are no values for numbers with a sign, a point or an exponent, and
they are refused.

* `parse_write`: a value is read from its text in every plain layout, so that its compact text and
  its pretty text say the same.
* `newline_not_mem_compact`: the compact text is on one line, whatever the strings are.
-/

namespace SenderPolicy.Json

/-! ## The reader -/

namespace Reader

/-- Read a whole number. -/
def whole : Reader Nat := fun cs => do
  let (digits, rest) ← wholeDigits .truncated cs
  return (Nat.ofDigitChars 10 digits 0, rest)

/-- Read a value that starts with a character.  `nested` reads the values between its brackets. -/
def valueFrom (nested : Reader Json) (c : Char) : Reader Json := do
  if c = 'n' then skip; expect ['u', 'l', 'l']; return .null
  else if c = 't' then skip; expect ['r', 'u', 'e']; return .bool true
  else if c = 'f' then skip; expect ['a', 'l', 's', 'e']; return .bool false
  else if c = '"' then skip; return .str (← string)
  else if c = '[' then
    skip
    return .arr (← bracketed ']' (fun items => return items ++ [← nested]) [])
  else if c = '{' then
    skip
    return .obj (← bracketed '}' (fun members => do
      let name ← memberName
      separator ':'
      return members ++ [(name, ← nested)]) [])
  else if c.isDigit then return .num (← whole)
  else fault .malformed

/-- Read a value that is nested in less than `depth` brackets. -/
def value : (depth : Nat) → Reader Json
  | 0 => fault .truncated
  | depth + 1 => do valueFrom (value depth) (← peek)

end Reader

open Reader

/-- The value that a text is, if it is one.  There are no more brackets than characters. -/
def parse (text : String) : Except Fault Json :=
  (value (text.toList.length + 1)).run text.toList

/-- What holds of a value if it holds of the values in it holds of all values. -/
@[elab_as_elim]
theorem nested_induction {P : Json → Prop} (null : P .null) (bool : ∀ b, P (.bool b))
    (num : ∀ n, P (.num n)) (str : ∀ s, P (.str s))
    (arr : ∀ items : List Json, (∀ item ∈ items, P item) → P (.arr items))
    (obj : ∀ members : List (String × Json), (∀ pair ∈ members, P pair.2) → P (.obj members)) :
    ∀ v, P v
  | .null => null
  | .bool b => bool b
  | .num n => num n
  | .str s => str s
  | .arr items => arr items fun item _ => nested_induction null bool num str arr obj item
  | .obj members => obj members fun pair _ => nested_induction null bool num str arr obj pair.2
termination_by v => sizeOf v
decreasing_by
  · next hitem =>
    have hlt := List.sizeOf_lt_of_mem hitem
    simp only [Json.arr.sizeOf_spec]
    omega
  · next hpair =>
    have hlt := List.sizeOf_lt_of_mem hpair
    obtain ⟨name, inner⟩ := pair
    simp only [Json.obj.sizeOf_spec, Prod.mk.sizeOf_spec] at hlt ⊢
    omega

/-! ## What is written is read -/

variable {layout : Layout} {level depth : Nat}

/-- A reader reads a value from its text, and leaves what follows it. -/
def ReadBy (reader : Reader Json) (layout : Layout) (level : Nat) (v : Json) : Prop :=
  ∀ before rest, before.all isBlank = true → Ends rest →
    reader (before ++ v.write layout level ++ rest) = .ok (v, rest)

/-- It is enough to look at the value from its first character on. -/
theorem readBy_value {v : Json} (h : ∀ c cs rest, v.write layout level = c :: cs → Ends rest →
      valueFrom (value depth) c (c :: (cs ++ rest)) = .ok (v, rest)) :
    ReadBy (value (depth + 1)) layout level v := by
  intro before rest hbefore hrest
  obtain ⟨c, cs, hcs, hc, -⟩ := exists_write_eq_cons layout level v
  rw [hcs, List.append_assoc, List.cons_append, value, bind_apply (peek_append _ hbefore hc)]
  exact h c cs rest hcs hrest

/-- A value that is a word. -/
theorem skip_expect (word rest : List Char) (c : Char) (v : Json) :
    (do skip; expect word; return v : Reader Json) (c :: (word ++ rest)) = .ok (v, rest) := by
  rw [bind_apply (skip_cons c _), bind_apply (expect_append word rest)]
  rfl

theorem Reader.whole_toDigits (n : Nat) {rest : List Char} (hrest : Ends rest) :
    whole (Nat.toDigits 10 n ++ rest) = .ok (n, rest) := by
  rw [whole, wholeDigits_toDigits hrest, ok_bind]
  show Except.ok (Nat.ofDigitChars 10 (Nat.toDigits 10 n) 0, rest) = _
  rw [Nat.ofDigitChars_ten_toDigits]

theorem readBy_null : ReadBy (value (depth + 1)) layout level .null := by
  refine readBy_value fun c cs rest hwrite _ => ?_
  obtain ⟨rfl, rfl⟩ := List.cons.inj hwrite
  exact skip_expect ['u', 'l', 'l'] rest 'n' .null

theorem readBy_bool (b : Bool) : ReadBy (value (depth + 1)) layout level (.bool b) := by
  refine readBy_value fun c cs rest hwrite _ => ?_
  cases b with
  | true =>
    obtain ⟨rfl, rfl⟩ := List.cons.inj hwrite
    exact skip_expect ['r', 'u', 'e'] rest 't' (.bool true)
  | false =>
    obtain ⟨rfl, rfl⟩ := List.cons.inj hwrite
    exact skip_expect ['a', 'l', 's', 'e'] rest 'f' (.bool false)

theorem readBy_num (n : Nat) : ReadBy (value (depth + 1)) layout level (.num n) := by
  refine readBy_value fun c cs rest hwrite hrest => ?_
  have hdigits : Nat.toDigits 10 n = c :: cs := hwrite
  have hdigit : c.isDigit = true :=
    List.all_eq_true.mp (Numeral.all_isDigit_toDigits n) c (hdigits ▸ List.mem_cons_self ..)
  have hne : ∀ d : Char, d.isDigit = false → c ≠ d := by
    rintro d hd rfl
    exact Bool.noConfusion (hdigit.symm.trans hd)
  have hwhole := whole_toDigits n hrest
  rw [hdigits, List.cons_append] at hwhole
  rw [valueFrom, if_neg (hne _ rfl), if_neg (hne _ rfl), if_neg (hne _ rfl), if_neg (hne _ rfl),
    if_neg (hne _ rfl), if_neg (hne _ rfl), if_pos hdigit, bind_apply hwhole]
  rfl

theorem readBy_str (s : String) : ReadBy (value (depth + 1)) layout level (.str s) := by
  refine readBy_value fun c cs rest hwrite _ => ?_
  have hquoted : write layout level (.str s) = '"' :: (s.toList.flatMap escapeChar ++ ['"']) := rfl
  obtain ⟨rfl, rfl⟩ := List.cons.inj (hwrite.symm.trans hquoted)
  show (skip >>= fun _ => string >>= fun s => return .str s : Reader Json) _ = _
  rw [bind_apply (skip_cons _ _), List.append_assoc, List.singleton_append,
    bind_apply (string_quoted s rest)]
  rfl

theorem readBy_arr (hlayout : layout.Plain) {items : List Json}
    (h : ∀ item ∈ items, ReadBy (value depth) layout (level + 1) item) :
    ReadBy (value (depth + 1)) layout level (.arr items) := by
  refine readBy_value fun c cs rest hwrite _ => ?_
  obtain ⟨opening, closing, hopening, hclosing, harr⟩ := write_arr hlayout level items
  obtain ⟨rfl, rfl⟩ := List.cons.inj (hwrite.symm.trans harr)
  have hturns := turns_concat (List.forall₂_same.mpr h) []
  have hitems := bracketed_separated hlayout (level + 1) (.inl rfl) hopening hclosing rest hturns
  show (skip >>= fun _ => bracketed ']' _ [] >>= fun items => return .arr items : Reader Json) _ = _
  rw [bind_apply (skip_cons _ _), List.append_assoc, List.singleton_append, bind_apply hitems]
  rfl

/-- The members of an object are read one after the other. -/
theorem turns_members (hlayout : layout.Plain) {members : List (String × Json)}
    (h : ∀ pair ∈ members, ReadBy (value depth) layout level pair.2) :
    ∀ gathered, Turns '}' (fun members => do
        let name ← memberName
        separator ':'
        return members ++ [(name, ← value depth)])
      gathered (members.map (writeMember layout level)) (gathered ++ members) := by
  induction members with
  | nil =>
    intro gathered
    rw [List.append_nil]
    exact .done gathered
  | cons pair members ih =>
    intro gathered
    obtain ⟨hpair, hmembers⟩ := List.forall_mem_cons.mp h
    have hturns := ih hmembers (gathered ++ [pair])
    rw [List.append_assoc, List.singleton_append] at hturns
    obtain ⟨blanks, hblanks, hcolon⟩ := hlayout.colon
    refine .turn ⟨rfl, by decide⟩ (fun before rest hbefore hrest => ?_) hturns
    have htext : before ++ writeMember layout level pair ++ rest = before ++ quoted pair.1 ++
        ([] ++ ':' :: (blanks ++ pair.2.write layout level ++ rest)) := by
      simp [writeMember, hcolon]
    show (memberName >>= fun name => separator ':' >>= fun _ => value depth >>= fun v =>
      return gathered ++ [(name, v)] : Reader (List (String × Json)))
        (before ++ writeMember layout level pair ++ rest) = _
    rw [htext, bind_apply (memberName_quoted hbefore pair.1 _),
      bind_apply (separator_append _ rfl rfl), bind_apply (hpair blanks rest hblanks hrest)]
    rfl

theorem readBy_obj (hlayout : layout.Plain) {members : List (String × Json)}
    (h : ∀ pair ∈ members, ReadBy (value depth) layout (level + 1) pair.2) :
    ReadBy (value (depth + 1)) layout level (.obj members) := by
  refine readBy_value fun c cs rest hwrite _ => ?_
  obtain ⟨opening, closing, hopening, hclosing, hobj⟩ := write_obj hlayout level members
  obtain ⟨rfl, rfl⟩ := List.cons.inj (hwrite.symm.trans hobj)
  have hmembers := bracketed_separated hlayout (level + 1) (.inr rfl) hopening hclosing rest
    (turns_members hlayout h [])
  show (skip >>= fun _ => bracketed '}' _ [] >>= fun members =>
    return .obj members : Reader Json) _ = _
  rw [bind_apply (skip_cons _ _), List.append_assoc, List.singleton_append, bind_apply hmembers]
  rfl

/-- The text of a part is no longer than that of the parts. -/
theorem length_le_separated (layout : Layout) (level : Nat) {texts : List (List Char)}
    {text : List Char} (h : text ∈ texts) :
    text.length ≤ (separated layout level texts).length := by
  obtain _ | ⟨first, texts⟩ := texts
  · cases h
  rw [separated, List.length_append]
  rcases List.mem_cons.mp h with rfl | h
  · exact Nat.le_add_right ..
  · obtain ⟨before, after, rfl⟩ := List.append_of_mem h
    simp only [following, List.flatMap_append, List.flatMap_cons, List.length_append]
    omega

/-- The value is read with as much room for brackets as its text has characters: the items of an
array take less, because the brackets around them do not belong to them. -/
theorem readBy_of_length_le (hlayout : layout.Plain) (v : Json) : ∀ level depth,
    (v.write layout level).length ≤ depth → ReadBy (value (depth + 1)) layout level v := by
  induction v using nested_induction with
  | null => exact fun _ _ _ => readBy_null
  | bool b => exact fun _ _ _ => readBy_bool b
  | num n => exact fun _ _ _ => readBy_num n
  | str s => exact fun _ _ _ => readBy_str s
  | arr items ih =>
    intro level depth hdepth
    refine readBy_arr hlayout fun item hitem => ?_
    obtain ⟨opening, closing, -, -, hwrite⟩ := write_arr hlayout level items
    have hle := length_le_separated layout (level + 1)
      (List.mem_map_of_mem (f := write layout (level + 1)) hitem)
    rw [hwrite] at hdepth
    simp only [List.length_cons, List.length_append] at hdepth
    obtain ⟨inner, rfl⟩ : ∃ inner, depth = inner + 1 := ⟨depth - 1, by omega⟩
    exact ih item hitem _ inner (by omega)
  | obj members ih =>
    intro level depth hdepth
    refine readBy_obj hlayout fun pair hpair => ?_
    obtain ⟨opening, closing, -, -, hwrite⟩ := write_obj hlayout level members
    have hle := length_le_separated layout (level + 1)
      (List.mem_map_of_mem (f := writeMember layout (level + 1)) hpair)
    rw [hwrite] at hdepth
    simp only [writeMember, List.length_cons, List.length_append] at hdepth hle
    obtain ⟨inner, rfl⟩ : ∃ inner, depth = inner + 1 := ⟨depth - 1, by omega⟩
    exact ih pair hpair _ inner (by omega)

/-- A value is read from its text in every plain layout. -/
theorem parse_write (hlayout : layout.Plain) (v : Json) :
    parse (String.ofList (v.write layout 0)) = .ok v := by
  have hread := readBy_of_length_le hlayout v 0 _ (Nat.le_refl _) [] [] rfl ends_nil
  rw [List.nil_append, List.append_nil] at hread
  rw [parse, String.toList_ofList, Reader.run, hread]
  rfl

theorem parse_compact (v : Json) : parse v.compact = .ok v := parse_write Layout.plain_compact v

theorem parse_pretty (v : Json) : parse v.pretty = .ok v := parse_write Layout.plain_pretty v

/-- Blanks may stand anywhere between the parts of a text. -/
example : parse " [ 1, \x7b\"a\" :null\x7d]\n" = .ok (.arr [.num 1, .obj [("a", .null)]]) := by
  cbv

/-- A comma stands between items only. -/
example : parse "[1,]" = .error .malformed := by cbv

/-! ## The compact text is on one line -/

theorem digitChar_ne_newline {n : Nat} (h : n < 16) : Nat.digitChar n ≠ '\n' := by
  intro hn
  have hdigit := Numeral.hexDigit?_digitChar h
  rw [hn] at hdigit
  cases hdigit

/-- A line feed is written as an escape. -/
theorem newline_not_mem_escapeChar (c : Char) : '\n' ∉ escapeChar c := by
  rw [escapeChar]
  -- The escapes of single characters, then the codes, then what stands for itself.
  iterate 7
    split
    · decide
  split
  · next hcontrol =>
    have hhigh := digitChar_ne_newline (n := c.toNat / 16) (by omega)
    have hlow := digitChar_ne_newline (n := c.toNat % 16) (by omega)
    simp [hhigh.symm, hlow.symm]
  · next hnewline _ _ _ =>
    exact fun hmem => hnewline (List.mem_singleton.mp hmem).symm

theorem newline_not_mem_quoted (s : String) : '\n' ∉ quoted s := by
  simp [quoted, newline_not_mem_escapeChar]

theorem newline_not_mem_separated {texts : List (List Char)} (h : ∀ text ∈ texts, '\n' ∉ text)
    (level : Nat) : '\n' ∉ separated .compact level texts := by
  cases texts with
  | nil => exact List.not_mem_nil
  | cons text texts =>
    obtain ⟨htext, htexts⟩ := List.forall_mem_cons.mp h
    simpa [separated, following, Layout.compact, htext] using htexts

theorem write_arr_compact (level : Nat) (items : List Json) : (arr items).write .compact level =
    '[' :: (separated .compact (level + 1) (items.map (write .compact (level + 1))) ++ [']']) := by
  cases items with
  | nil => rfl
  | cons item items => rw [← writeItems_eq]; simp [write, Layout.compact]

theorem write_obj_compact (level : Nat) (members : List (String × Json)) :
    (obj members).write .compact level = '{' :: (separated .compact (level + 1)
      (members.map (writeMember .compact (level + 1))) ++ ['}']) := by
  cases members with
  | nil => rfl
  | cons pair members => rw [← writeMembers_eq]; simp [write, Layout.compact]

theorem newline_not_mem_write (v : Json) : ∀ level, '\n' ∉ v.write .compact level := by
  induction v using nested_induction with
  | null => exact fun level => show '\n' ∉ ['n', 'u', 'l', 'l'] by decide
  | bool b =>
    intro level
    cases b with
    | true => exact show '\n' ∉ ['t', 'r', 'u', 'e'] by decide
    | false => exact show '\n' ∉ ['f', 'a', 'l', 's', 'e'] by decide
  | num n =>
    intro level hmem
    exact absurd (List.all_eq_true.mp (Numeral.all_isDigit_toDigits n) '\n' hmem) (by decide)
  | str s => exact fun level => newline_not_mem_quoted s
  | arr items ih =>
    intro level
    have hitem : ∀ item ∈ items, '\n' ∉ item.write .compact (level + 1) :=
      fun item hitem => ih item hitem (level + 1)
    have hitems := newline_not_mem_separated (List.forall_mem_map.mpr hitem) (level + 1)
    simpa [write_arr_compact] using hitems
  | obj members ih =>
    intro level
    have hmember : ∀ pair ∈ members, '\n' ∉ writeMember .compact (level + 1) pair := by
      intro pair hpair
      have hvalue := ih pair hpair (level + 1)
      simpa [writeMember, newline_not_mem_quoted, Layout.compact] using hvalue
    have hmembers := newline_not_mem_separated (List.forall_mem_map.mpr hmember) (level + 1)
    simpa [write_obj_compact] using hmembers

theorem newline_not_mem_compact (v : Json) : '\n' ∉ v.compact.toList := by
  rw [compact, String.toList_ofList]
  exact newline_not_mem_write v 0

end SenderPolicy.Json
