import Mathlib.Data.List.Forall2
import SenderPolicy.Json.Codec.Basic
import SenderPolicy.Proofs.Json.Brackets

/-!
# What is written is read again

A value is read against a shape from the text it is written as, whatever the layout, as long as it
puts nothing but blanks between the parts of the text, and whatever follows the text, as long as it
does not go on with a number.  `Shape.Reads` says so of a shape, a value that is written and the
settled value that is read; the two differ in the fields that are left out.

There is one law for each kind of shape: `reads_text`, `reads_count`, `reads_flag`,
`reads_optional_null`, `reads_optional`, `reads_list`, `reads_name`, `reads_payload` and
`reads_ofFields`.  The fields of a record are followed in their order (`FieldsFound`), and one of
them is there or missing; whether the ones that are there make a record is up to `Fields.settle`.

* `FieldsFound.read_obj`: an object whose fields are there, or missing, is read as what they settle
  to, and is a mismatch if one is missing that may not be.
* `decode_encode`: a value whose JSON is read as it is written (`Kept`) is decoded from its text.
-/

namespace SenderPolicy.Json

open Reader

variable {layout : Layout} {level : Nat}

/-! ## The laws of the shapes -/

/-- A shape reads a value that is written as a settled value, in every plain layout, whatever blanks
stand in front and whatever follows. -/
def Shape.Reads (shape : Shape) (written settled : Json) : Prop :=
  ∀ layout : Layout, layout.Plain → ∀ level before rest, before.all isBlank = true → Ends rest →
    shape.read (before ++ written.write layout level ++ rest) = .ok (settled, rest)

/-- A string is read behind blanks. -/
theorem quoted_append {before : List Char} (s : String) (rest : List Char) :
    before ++ quoted s ++ rest =
      before ++ '"' :: (s.toList.flatMap escapeChar ++ '"' :: rest) := by
  simp [quoted]

theorem Reader.text_quoted {before : List Char} (hbefore : before.all isBlank = true) (s : String)
    (rest : List Char) : Reader.text (before ++ quoted s ++ rest) = .ok (s, rest) := by
  rw [quoted_append, Reader.text, bind_apply (peek_append _ hbefore rfl), if_pos rfl,
    bind_apply (skip_cons _ _)]
  exact string_quoted s rest

theorem Reader.memberName_quoted {before : List Char} (hbefore : before.all isBlank = true)
    (s : String) (rest : List Char) : memberName (before ++ quoted s ++ rest) = .ok (s, rest) := by
  rw [quoted_append, memberName, bind_apply (peek_append _ hbefore rfl), if_pos rfl,
    bind_apply (skip_cons _ _)]
  exact string_quoted s rest

namespace Shape

theorem reads_text {valid : String → Bool} {s : String} (hs : valid s = true) :
    (text valid).Reads (.str s) (.str s) := by
  intro layout _ level before rest hbefore _
  have htext : Reader.text (before ++ write layout level (.str s) ++ rest) = .ok (s, rest) :=
    Reader.text_quoted hbefore s rest
  rw [read, bind_apply htext, if_pos hs]
  rfl

theorem reads_string (s : String) : Shape.string.Reads (.str s) (.str s) := reads_text rfl

theorem reads_count {bound n : Nat} (hn : n ≤ bound) (hwhole : n ≤ maxWhole) :
    (count bound).Reads (.num n) (.num n) := by
  intro layout _ level before rest hbefore hrest
  obtain ⟨c, cs, hcs, hc, -⟩ := exists_write_eq_cons layout level (.num n)
  have hdigits : Nat.toDigits 10 n = c :: cs := hcs
  have hstarts : startsNumber c = true := by
    have hall := List.all_eq_true.mp (Numeral.all_isDigit_toDigits n) c
    rw [startsNumber, hall (hdigits ▸ List.mem_cons_self ..), Bool.or_true]
  have hnumber : number (c :: (cs ++ rest)) = .ok (some n, rest) := by
    rw [← List.cons_append, ← hdigits]
    exact number_toDigits hwhole hrest
  rw [hcs, List.append_assoc, List.cons_append, read, bind_apply (peek_append _ hbefore hc),
    if_pos hstarts, bind_apply hnumber]
  simp only [if_pos hn]
  rfl

theorem reads_anyCount {n : Nat} (hn : n ≤ maxCount) : anyCount.Reads (.num n) (.num n) :=
  reads_count hn hn

theorem reads_flag (b : Bool) : flag.Reads (.bool b) (.bool b) := by
  intro layout _ level before rest hbefore _
  cases b with
  | true =>
    have htext : before ++ write layout level (.bool true) ++ rest =
        before ++ 't' :: (['r', 'u', 'e'] ++ rest) := by simp [write]
    rw [htext, read, bind_apply (peek_append _ hbefore rfl), if_pos rfl, bind_apply (skip_cons _ _),
      bind_apply (expect_append _ rest)]
    rfl
  | false =>
    have htext : before ++ write layout level (.bool false) ++ rest =
        before ++ 'f' :: (['a', 'l', 's', 'e'] ++ rest) := by simp [write]
    rw [htext, read, bind_apply (peek_append _ hbefore rfl), if_neg (by decide), if_pos rfl,
      bind_apply (skip_cons _ _), bind_apply (expect_append _ rest)]
    rfl

theorem reads_optional_null (shape : Shape) : (optional shape).Reads .null .null := by
  intro layout _ level before rest hbefore _
  have htext : before ++ write layout level .null ++ rest =
      before ++ 'n' :: (['u', 'l', 'l'] ++ rest) := by simp [write]
  rw [htext, read_optional, bind_apply (peek_append _ hbefore rfl), if_pos rfl,
    bind_apply (skip_cons _ _), bind_apply (expect_append _ rest)]
  rfl

theorem reads_optional {shape : Shape} {written settled : Json} (h : shape.Reads written settled)
    (hnull : written ≠ .null) : (optional shape).Reads written settled := by
  intro layout hlayout level before rest hbefore hrest
  obtain ⟨c, cs, hcs, hc, -, -, hn⟩ := exists_write_eq_cons layout level written
  have hread := h layout hlayout level [] rest rfl hrest
  rw [List.nil_append, hcs] at hread
  rw [hcs, List.append_assoc, List.cons_append, read_optional,
    bind_apply (peek_append _ hbefore hc), if_neg fun heq => hnull (hn heq)]
  exact hread

/-- The items of an array are read one after the other. -/
theorem turns_items {shape : Shape} {written settled : List Json}
    (h : List.Forall₂ shape.Reads written settled) (hlayout : layout.Plain) (level : Nat) :
    ∀ gathered, Turns ']' (fun items => return items ++ [← shape.read]) gathered
      (written.map (write layout level)) (gathered ++ settled) :=
  turns_concat (h.imp fun _ _ hread before rest => hread layout hlayout level before rest)

theorem reads_list {shape : Shape} {written settled : List Json}
    (h : List.Forall₂ shape.Reads written settled) :
    (list shape).Reads (.arr written) (.arr settled) := by
  intro layout hlayout level before rest hbefore _
  obtain ⟨opening, closing, hopening, hclosing, hwrite⟩ := write_arr hlayout level written
  have hitems := bracketed_separated hlayout (level + 1) (.inl rfl) hopening hclosing rest
    (turns_items h hlayout (level + 1) [])
  have htext : before ++ write layout level (.arr written) ++ rest = before ++ '[' :: (opening ++
      separated layout (level + 1) (written.map (write layout (level + 1))) ++ closing ++
        ']' :: rest) := by simp [hwrite]
  rw [htext, read, bind_apply (peek_append _ hbefore rfl), if_pos rfl, bind_apply (skip_cons _ _),
    bind_apply hitems]
  rfl

/-- A variant that is its name. -/
theorem reads_name {choices : Variants} {name : String}
    (hname : choices.named name = pure (.str name)) :
    (variants choices).Reads (.str name) (.str name) := by
  intro layout _ level before rest hbefore _
  have hquoted : before ++ write layout level (.str name) ++ rest = before ++ quoted name ++ rest :=
    rfl
  rw [hquoted, quoted_append, read, bind_apply (peek_append _ hbefore rfl), if_pos rfl,
    bind_apply (skip_cons _ _), bind_apply (string_quoted name rest), hname]
  rfl

/-- The value of a member is read behind its name. -/
theorem Reads.behind_colon {α : Type} {shape : Shape} {written settled : Json}
    (h : shape.Reads written settled) (hlayout : layout.Plain) (level : Nat) {rest : List Char}
    (hrest : Ends rest) (next : Json → Reader α) :
    (separator ':' >>= fun _ => shape.read >>= next)
      (layout.colon ++ write layout level written ++ rest) = next settled rest := by
  obtain ⟨blanks, hblanks, hcolon⟩ := hlayout.colon
  have htext : layout.colon ++ write layout level written ++ rest =
      [] ++ ':' :: (blanks ++ write layout level written ++ rest) := by simp [hcolon]
  rw [htext, bind_apply (separator_append _ rfl rfl)]
  exact bind_apply (h layout hlayout level blanks rest hblanks hrest)

/-- A variant with a payload, which is written as an object with one member. -/
theorem reads_payload {choices : Variants} {name : String} {shape : Shape} {written settled : Json}
    (hname : choices.readVariant name = do separator ':'; return .obj [(name, ← shape.read)])
    (h : shape.Reads written settled) :
    (variants choices).Reads (.obj [(name, written)]) (.obj [(name, settled)]) := by
  intro layout hlayout level before rest hbefore _
  obtain ⟨opening, closing, hopening, hclosing, hwrite⟩ := write_obj hlayout level [(name, written)]
  have hends : Ends (closing ++ '}' :: rest) :=
    ends_append hclosing (ends_cons rest (by decide))
  have hvalue : choices.readVariant name (layout.colon ++ write layout (level + 1) written ++
      (closing ++ '}' :: rest)) = .ok (.obj [(name, settled)], closing ++ '}' :: rest) := by
    rw [hname]
    exact h.behind_colon hlayout (level + 1) hends _
  have htext : before ++ write layout level (.obj [(name, written)]) ++ rest = before ++ '{' ::
      (opening ++ quoted name ++ (layout.colon ++ write layout (level + 1) written ++
        (closing ++ '}' :: rest))) := by simp [hwrite, separated, following, writeMember]
  rw [htext, read, bind_apply (peek_append _ hbefore rfl), if_neg (by decide), if_pos rfl,
    bind_apply (skip_cons _ _), bind_apply (memberName_quoted hopening name _), bind_apply hvalue,
    bind_apply (separator_append rest hclosing rfl)]
  rfl

end Shape

/-! ## Records -/

/-- The part of an object that the reading of a record takes in one go. -/
def memberPart (fields : Fields) (found : List (String × Json)) :
    Reader (List (String × Json)) := do
  let name ← memberName
  match fields.reader? name with
  | none => do separator ':'; passOverValue; return found
  | some reader =>
    if (found? found name).isSome then fault .mismatch
    else do separator ':'; return found ++ [(name, ← reader)]

/-- Members that hold values of fields, in the order of the fields, where fields may be left out,
and the values that are found when they are read. -/
inductive FieldsFound : List (String × Shape) → List (String × Json) → List (String × Json) → Prop
  | nil : FieldsFound [] [] []
  | there {name : String} {shape : Shape} {written settled : Json} {fields : List (String × Shape)}
      {members found : List (String × Json)} (hread : shape.Reads written settled)
      (hrest : FieldsFound fields members found) :
      FieldsFound ((name, shape) :: fields) ((name, written) :: members) ((name, settled) :: found)
  | missing {name : String} {shape : Shape} {fields : List (String × Shape)}
      {members found : List (String × Json)} (hrest : FieldsFound fields members found) :
      FieldsFound ((name, shape) :: fields) members found

theorem FieldsFound.append {fields fields' : List (String × Shape)}
    {members members' found found' : List (String × Json)} (h : FieldsFound fields members found)
    (h' : FieldsFound fields' members' found') :
    FieldsFound (fields ++ fields') (members ++ members') (found ++ found') := by
  induction h with
  | nil => exact h'
  | there hread _ ih => exact .there hread ih
  | missing _ ih => exact .missing ih

/-- With one field to a name, each field is read by its own shape. -/
theorem Fields.reader?_ofList {fields : List (String × Shape)} {name : String} {shape : Shape}
    (hnodup : (fields.map Prod.fst).Nodup) (hmem : (name, shape) ∈ fields) :
    (Fields.ofList fields).reader? name = some shape.read := by
  induction fields with
  | nil => exact absurd hmem List.not_mem_nil
  | cons field fields ih =>
    obtain ⟨first, firstShape⟩ := field
    rw [List.map_cons, List.nodup_cons] at hnodup
    have hcons : (Fields.ofList ((first, firstShape) :: fields)).reader? name =
        if first = name then some firstShape.read else (Fields.ofList fields).reader? name := rfl
    rw [hcons]
    rcases List.mem_cons.mp hmem with heq | htail
    · obtain ⟨rfl, rfl⟩ := Prod.mk.inj heq
      exact if_pos rfl
    · have hne : first ≠ name := by
        rintro rfl
        exact hnodup.1 (List.mem_map.mpr ⟨_, htail, rfl⟩)
      rw [if_neg hne]
      exact ih hnodup.2 htail

theorem found?_concat {found : List (String × Json)} {name other : String} {value : Json}
    (hne : name ≠ other) : found? (found ++ [(name, value)]) other = found? found other := by
  have hmiss : (name == other) = false := beq_eq_false_iff_ne.mpr hne
  simp [found?, List.find?_append, hmiss]

/-- The members of an object are read one after the other.  What has been gathered before holds none
of the fields that are still to come. -/
theorem FieldsFound.turns {all : Fields} {fields : List (String × Shape)}
    {members found : List (String × Json)} (h : FieldsFound fields members found)
    (hlayout : layout.Plain) (level : Nat)
    (hreader : ∀ name shape, (name, shape) ∈ fields → all.reader? name = some shape.read)
    (hnodup : (fields.map Prod.fst).Nodup) :
    ∀ gathered, (∀ name ∈ fields.map Prod.fst, found? gathered name = none) →
      Turns '}' (memberPart all) gathered (members.map (writeMember layout level))
        (gathered ++ found) := by
  induction h with
  | nil =>
    intro gathered _
    rw [List.append_nil]
    exact .done gathered
  | @there name shape written settled fields members found hread hrest ih =>
    intro gathered hgathered
    have hnew : found? gathered name = none := hgathered name (List.mem_cons_self ..)
    rw [List.map_cons, List.nodup_cons] at hnodup
    have hfound : ∀ other ∈ fields.map Prod.fst,
        found? (gathered ++ [(name, settled)]) other = none := by
      intro other hother
      have hne : name ≠ other := fun heq => hnodup.1 (heq ▸ hother)
      rw [found?_concat hne]
      exact hgathered other (List.mem_cons_of_mem _ hother)
    have hturns := ih (fun name shape hmem => hreader name shape (List.mem_cons_of_mem _ hmem))
      hnodup.2 _ hfound
    rw [List.append_assoc, List.singleton_append] at hturns
    refine .turn ⟨rfl, by decide⟩ (fun before rest hbefore hends => ?_) hturns
    have htext : before ++ writeMember layout level (name, written) ++ rest =
        before ++ quoted name ++ (layout.colon ++ write layout level written ++ rest) := by
      simp [writeMember]
    change memberPart all gathered (before ++ writeMember layout level (name, written) ++ rest) = _
    rw [htext, memberPart, bind_apply (memberName_quoted hbefore name _),
      hreader name shape (List.mem_cons_self ..)]
    simp only [hnew, Option.isSome_none, Bool.false_eq_true, if_false]
    exact hread.behind_colon hlayout level hends _
  | missing hrest ih =>
    intro gathered hgathered
    rw [List.map_cons, List.nodup_cons] at hnodup
    exact ih (fun name shape hmem => hreader name shape (List.mem_cons_of_mem _ hmem)) hnodup.2
      gathered fun name hmem => hgathered name (List.mem_cons_of_mem _ hmem)

/-- An object is read as its fields, if the fields that were found make a record. -/
theorem FieldsFound.read_obj {fields : List (String × Shape)} {members found : List (String × Json)}
    (h : FieldsFound fields members found) (hnodup : (fields.map Prod.fst).Nodup)
    (hlayout : layout.Plain) (level : Nat) {before : List Char} (rest : List Char)
    (hbefore : before.all isBlank = true) :
    (Shape.ofFields fields).read (before ++ write layout level (.obj members) ++ rest) =
      match (Fields.ofList fields).settle found with
      | some settled => .ok (.obj settled, rest)
      | none => .error .mismatch := by
  obtain ⟨opening, closing, hopening, hclosing, hwrite⟩ := write_obj hlayout level members
  have hmembers := bracketed_separated hlayout (level + 1) (.inr rfl) hopening hclosing
    rest (h.turns hlayout (level + 1) (fun name shape => Fields.reader?_ofList hnodup) hnodup []
      fun _ _ => rfl)
  have htext : before ++ write layout level (.obj members) ++ rest = before ++ '{' :: (opening ++
      separated layout (level + 1) (members.map (writeMember layout (level + 1))) ++ closing ++
        '}' :: rest) := by simp [hwrite]
  rw [htext, Shape.ofFields, Shape.read, bind_apply (peek_append _ hbefore rfl), if_pos rfl,
    bind_apply (skip_cons _ _)]
  change (bracketed '}' (memberPart (Fields.ofList fields)) [] >>= _) _ = _
  rw [bind_apply hmembers, List.nil_append]
  cases (Fields.ofList fields).settle found <;> rfl

/-- A record is read from its object, if the fields that are left out may be left out. -/
theorem Shape.reads_ofFields {fields : List (String × Shape)}
    {members found settled : List (String × Json)} (h : FieldsFound fields members found)
    (hnodup : (fields.map Prod.fst).Nodup)
    (hsettle : (Fields.ofList fields).settle found = some settled) :
    (Shape.ofFields fields).Reads (.obj members) (.obj settled) := by
  intro layout hlayout level before rest hbefore _
  rw [h.read_obj hnodup hlayout level rest hbefore, hsettle]

/-! ## Whole texts -/

variable {α : Type} [Codec α]

/-- A value whose JSON is read as the JSON of that value. -/
def Kept (a : α) : Prop :=
  ∃ settled, (Codec.shape α).Reads (Codec.toJson a) settled ∧ Codec.ofJson? settled = some a

/-- A value that is kept is decoded from its text. -/
theorem decode_encode {a : α} (h : Kept a) : decode (encode a) = .ok a := by
  obtain ⟨settled, hreads, hofJson⟩ := h
  have hread := hreads .compact Layout.plain_compact 0 [] [] rfl ends_nil
  rw [List.nil_append, List.append_nil] at hread
  have hrun : (Codec.shape α).read.run (encode a).toList = .ok settled := by
    rw [encode, compact, String.toList_ofList, Reader.run, hread]
    rfl
  rw [decode, hrun, ok_bind]
  simp only [hofJson]
  rfl

/-- A value is not decoded from its text if a field is missing that may not be. -/
theorem decode_encode_eq_mismatch {a : α} {fields : List (String × Shape)}
    {members found : List (String × Json)} (hshape : Codec.shape α = Shape.ofFields fields)
    (hjson : Codec.toJson a = .obj members) (h : FieldsFound fields members found)
    (hnodup : (fields.map Prod.fst).Nodup) (hsettle : (Fields.ofList fields).settle found = none) :
    (decode (encode a) : Except Fault α) = .error .mismatch := by
  have hblank : ([] : List Char).all isBlank = true := rfl
  have hread := h.read_obj hnodup Layout.plain_compact 0 [] hblank
  rw [hsettle, List.nil_append, List.append_nil] at hread
  rw [decode, encode, compact, String.toList_ofList, hshape, hjson, Reader.run, hread]
  rfl

/-- Lists of values that are kept are kept. -/
theorem exists_reads_ofList {as : List α} (h : ∀ a ∈ as, Kept a) :
    ∃ settled, (Shape.list (Codec.shape α)).Reads (ofList as) settled ∧
      toList? settled = some as := by
  have hitems : ∃ settled, List.Forall₂ (Codec.shape α).Reads (as.map Codec.toJson) settled ∧
      settled.mapM Codec.ofJson? = some as := by
    induction as with
    | nil => exact ⟨[], .nil, rfl⟩
    | cons a as ih =>
      obtain ⟨item, hitem, hvalue⟩ := h a (List.mem_cons_self ..)
      obtain ⟨items, hitems, hvalues⟩ := ih fun a ha => h a (List.mem_cons_of_mem _ ha)
      refine ⟨item :: items, .cons hitem hitems, ?_⟩
      simp [List.mapM_cons, hvalue, hvalues]
  obtain ⟨settled, hreads, hvalues⟩ := hitems
  exact ⟨.arr settled, Shape.reads_list hreads, hvalues⟩

end SenderPolicy.Json
