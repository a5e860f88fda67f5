import Mathlib.Data.List.Induction
import SenderPolicy.Report.Csv

/-!
# Reading comma-separated values

A table is a sequence of lines, a line is one or more fields with commas between them, and a field
is text as it stands or anything between quotes, with its quotes doubled (`IsTable`, `IsRow`,
`IsField`, `Escaped`).  Lines end with a line feed, in front of which a carriage return may stand;
the last one may end with the text.

`read?` reads a table, one character at a time.  The state of the reading is what has been read so
far and the place where it stands in a field (`Reading`).

* `read?_eq_some_iff`: what is read are exactly the tables of the grammar.  So no text is a table
  in two ways.
* `read?_table`: a table is read as it is written.
-/

namespace SenderPolicy.Csv

/-! ## The grammar -/

/-- Whether a character can stand in a field without quotes. -/
def IsText (c : Char) : Prop := c ≠ ',' ∧ c ≠ '"' ∧ c ≠ '\n' ∧ c ≠ '\r'

instance (c : Char) : Decidable (IsText c) := inferInstanceAs (Decidable (_ ∧ _))

/-- What is between quotes, and how it is spelt there. -/
inductive Escaped : List Char → List Char → Prop
  | nil : Escaped [] []
  | char {cs text : List Char} (h : Escaped cs text) {c : Char} (hc : c ≠ '"') :
      Escaped (cs ++ [c]) (text ++ [c])
  | quote {cs text : List Char} (h : Escaped cs text) : Escaped (cs ++ ['"']) (text ++ ['"', '"'])

/-- A field, and how it is spelt. -/
inductive IsField : List Char → List Char → Prop
  | bare {cs : List Char} (h : ∀ c ∈ cs, IsText c) : IsField cs cs
  | quoted {cs text : List Char} (h : Escaped cs text) : IsField cs ('"' :: text ++ ['"'])

/-- The fields of a line, and how they are spelt. -/
inductive IsRow : List String → List Char → Prop
  | last {s : String} {text : List Char} (h : IsField s.toList text) : IsRow [s] text
  | field {s : String} {text texts : List Char} {fields : List String} (h : IsField s.toList text)
      (hrest : IsRow fields texts) : IsRow (s :: fields) (text ++ ',' :: texts)

theorem IsRow.ne_nil {fields : List String} {text : List Char} (h : IsRow fields text) :
    fields ≠ [] := by
  cases h <;> exact List.cons_ne_nil _ _

/-- How a line ends. -/
inductive IsLineEnd : List Char → Prop
  | lineFeed : IsLineEnd ['\n']
  | both : IsLineEnd ['\r', '\n']

/-- The lines of a table, and how they are spelt. -/
inductive IsTable : List (List String) → List Char → Prop
  | nil : IsTable [] []
  | last {fields : List String} {text : List Char} (h : IsRow fields text) (hne : text ≠ []) :
      IsTable [fields] text
  | line {fields : List String} {rows : List (List String)} {text ending texts : List Char}
      (h : IsRow fields text) (hending : IsLineEnd ending) (hrest : IsTable rows texts) :
      IsTable (fields :: rows) (text ++ ending ++ texts)

/-! ## The reader -/

/-- Where the reading of a field stands. -/
inductive Place where
  /-- In front of it. -/
  | start
  /-- In the middle, without quotes. -/
  | bare
  /-- Between its quotes. -/
  | quoted
  /-- Behind a quote, which may be its end or the first of two. -/
  | closed
  /-- Behind the carriage return that follows the last field of a line. -/
  | carriageReturn
  deriving DecidableEq

/-- What has been read of a table. -/
structure Reading where
  place : Place
  /-- What has been read of the field. -/
  field : List Char
  /-- The fields of the line that are complete. -/
  row : List String
  /-- The lines that are complete. -/
  rows : List (List String)

/-- The places where a field can end. -/
def Place.CanEnd (place : Place) : Prop := place = .start ∨ place = .bare ∨ place = .closed

namespace Reading

/-- The line with its last field. -/
def fullRow (r : Reading) : List String := r.row ++ [String.ofList r.field]

/-- Read the end of a field. -/
def delimiter? (r : Reading) (c : Char) : Option Reading :=
  if c = ',' then some ⟨.start, [], r.fullRow, r.rows⟩
  else if c = '\n' then some ⟨.start, [], [], r.rows ++ [r.fullRow]⟩
  else if c = '\r' then some { r with place := .carriageReturn }
  else none

/-- Read a character. -/
def step (r : Reading) (c : Char) : Option Reading :=
  match r.place with
  | .start =>
    if c = '"' then some { r with place := .quoted }
    else if IsText c then some { r with place := .bare, field := [c] }
    else r.delimiter? c
  | .bare => if IsText c then some { r with field := r.field ++ [c] } else r.delimiter? c
  | .quoted =>
    if c = '"' then some { r with place := .closed }
    else some { r with field := r.field ++ [c] }
  | .closed =>
    if c = '"' then some { r with place := .quoted, field := r.field ++ ['"'] }
    else r.delimiter? c
  | .carriageReturn => if c = '\n' then some ⟨.start, [], [], r.rows ++ [r.fullRow]⟩ else none

/-- Read the end of the text.  Where nothing of a line has been read, there is none. -/
def finish? (r : Reading) : Option (List (List String)) :=
  match r.place with
  | .start => if r.row = [] then some r.rows else some (r.rows ++ [r.fullRow])
  | .bare | .closed => some (r.rows ++ [r.fullRow])
  | .quoted | .carriageReturn => none

/-- Read a text. -/
def run (r : Reading) (text : List Char) : Option Reading := text.foldlM step r

theorem run_nil (r : Reading) : r.run [] = some r := rfl

theorem run_cons (r : Reading) (c : Char) (text : List Char) :
    r.run (c :: text) = (r.step c).bind fun next => next.run text := List.foldlM_cons

theorem run_append (r : Reading) (text text' : List Char) :
    r.run (text ++ text') = (r.run text).bind fun next => next.run text' := List.foldlM_append

end Reading

/-- The table that a text is, if it is one. -/
def read? (text : String) : Option (List (List String)) :=
  ((⟨.start, [], [], []⟩ : Reading).run text.toList).bind Reading.finish?

/-! ## Tables are read -/

namespace Reading

variable {cs text field : List Char} {row fields : List String} {rows table : List (List String)}

theorem run_escaped (h : Escaped cs text) :
    (⟨.quoted, [], row, rows⟩ : Reading).run text = some ⟨.quoted, cs, row, rows⟩ := by
  induction h with
  | nil => rfl
  | char h hc ih =>
    rw [run_append, ih, Option.bind_some, run_cons]
    simp only [step, if_neg hc, Option.bind_some, run_nil]
  | quote h ih =>
    rw [run_append, ih]
    rfl

theorem run_bare (h : ∀ c ∈ cs, IsText c) :
    (⟨.bare, field, row, rows⟩ : Reading).run cs = some ⟨.bare, field ++ cs, row, rows⟩ := by
  induction cs generalizing field with
  | nil => rw [List.append_nil, run_nil]
  | cons c cs ih =>
    obtain ⟨hc, hcs⟩ := List.forall_mem_cons.mp h
    rw [run_cons]
    simp only [step, if_pos hc, Option.bind_some]
    rw [ih hcs, List.append_assoc, List.singleton_append]

/-- A field without quotes that is empty ends where it starts. -/
theorem run_field (h : IsField cs text) (row : List String) (rows : List (List String)) :
    ∃ place : Place, place.CanEnd ∧ (place = .start → text = []) ∧
      (⟨.start, [], row, rows⟩ : Reading).run text = some ⟨place, cs, row, rows⟩ := by
  cases h with
  | bare h =>
    cases cs with
    | nil => exact ⟨.start, .inl rfl, fun _ => rfl, rfl⟩
    | cons c cs =>
      obtain ⟨hc, hcs⟩ := List.forall_mem_cons.mp h
      refine ⟨.bare, .inr (.inl rfl), nofun, ?_⟩
      rw [run_cons]
      simp only [step, if_neg hc.2.1, if_pos hc, Option.bind_some]
      exact run_bare hcs
  | @quoted text h =>
    have hopen : (⟨.start, [], row, rows⟩ : Reading).run ('"' :: (text ++ ['"'])) =
        (⟨.quoted, [], row, rows⟩ : Reading).run (text ++ ['"']) := rfl
    refine ⟨.closed, .inr (.inr rfl), nofun, ?_⟩
    rw [List.cons_append, hopen, run_append, run_escaped h]
    rfl

theorem run_comma {r : Reading} (h : r.place.CanEnd) (texts : List Char) :
    r.run (',' :: texts) = (⟨.start, [], r.fullRow, r.rows⟩ : Reading).run texts := by
  obtain ⟨place, field, row, rows⟩ := r
  rcases h with h | h | h <;> cases h <;> rfl

theorem run_lineEnd {r : Reading} (h : r.place.CanEnd) {ending : List Char}
    (hending : IsLineEnd ending) :
    r.run ending = some ⟨.start, [], [], r.rows ++ [r.fullRow]⟩ := by
  obtain ⟨place, field, row, rows⟩ := r
  cases hending <;> rcases h with h | h | h <;> cases h <;> rfl

theorem finish?_of_canEnd {r : Reading} (h : r.place.CanEnd)
    (hany : ¬(r.place = .start ∧ r.row = [])) : r.finish? = some (r.rows ++ [r.fullRow]) := by
  obtain ⟨place, field, row, rows⟩ := r
  rcases h with h | h | h <;> cases h
  · exact if_neg fun hrow => hany ⟨rfl, hrow⟩
  · rfl
  · rfl

/-- A line is read up to the place where its last field can end. -/
theorem run_row (h : IsRow fields text) : ∀ before rows, ∃ r : Reading, r.place.CanEnd ∧
    r.fullRow = before ++ fields ∧ r.rows = rows ∧ (r.place = .start ∧ r.row = [] → text = []) ∧
    (⟨.start, [], before, rows⟩ : Reading).run text = some r := by
  induction h with
  | @last s text h =>
    intro before rows
    obtain ⟨place, hplace, hstart, hrun⟩ := run_field h before rows
    refine ⟨_, hplace, ?_, rfl, fun hnone => hstart hnone.1, hrun⟩
    show before ++ [String.ofList s.toList] = before ++ [s]
    rw [String.ofList_toList]
  | @field s text texts fields h hrest ih =>
    intro before rows
    obtain ⟨place, hplace, -, hrun⟩ := run_field h before rows
    obtain ⟨r, hr, hfull, hrows, -, hruns⟩ := ih (before ++ [s]) rows
    rw [List.append_assoc, List.singleton_append] at hfull
    refine ⟨r, hr, hfull, hrows, ?_, ?_⟩
    · -- Something is complete on the line, so it is not its start.
      rintro ⟨-, hrow⟩
      have hlength := congrArg List.length hfull
      have hpos := List.length_pos_iff.mpr hrest.ne_nil
      rw [fullRow, hrow] at hlength
      simp only [List.length_append, List.length_cons, List.length_nil] at hlength
      omega
    · have hnext : (⟨place, s.toList, before, rows⟩ : Reading).fullRow = before ++ [s] := by
        rw [fullRow, String.ofList_toList]
      rw [run_append, hrun, Option.bind_some, run_comma hplace, hnext]
      exact hruns

theorem run_table (h : IsTable table text) : ∀ rows, ∃ r : Reading,
    (⟨.start, [], [], rows⟩ : Reading).run text = some r ∧ r.finish? = some (rows ++ table) := by
  induction h with
  | nil => exact fun rows => ⟨_, rfl, congrArg some (List.append_nil rows).symm⟩
  | @last fields text h hne =>
    intro rows
    obtain ⟨r, hr, hfull, hrows, hnone, hrun⟩ := run_row h [] rows
    refine ⟨r, hrun, ?_⟩
    rw [finish?_of_canEnd hr fun hstart => hne (hnone hstart), hfull, hrows]
    rfl
  | @line fields table text ending texts h hending hrest ih =>
    intro rows
    obtain ⟨r, hr, hfull, hrows, -, hrun⟩ := run_row h [] rows
    obtain ⟨last, hruns, hfinish⟩ := ih (rows ++ [fields])
    refine ⟨last, ?_, ?_⟩
    · rw [List.append_assoc, run_append, hrun, Option.bind_some, run_append,
        run_lineEnd hr hending, Option.bind_some, hfull, hrows]
      exact hruns
    · rw [hfinish, List.append_assoc]
      rfl

end Reading

/-! ## What is read is a table -/

/-- What has been read of a field, and how it is spelt. -/
inductive Partial : Place → List Char → List Char → Prop
  | start : Partial .start [] []
  | bare {cs : List Char} (h : ∀ c ∈ cs, IsText c) (hne : cs ≠ []) : Partial .bare cs cs
  | quoted {cs text : List Char} (h : Escaped cs text) : Partial .quoted cs ('"' :: text)
  | closed {cs text : List Char} (h : Escaped cs text) : Partial .closed cs ('"' :: text ++ ['"'])
  | carriageReturn {cs text : List Char} (h : IsField cs text) : Partial .carriageReturn cs (text ++ ['\r'])

/-- Where a field can end, what has been read of it is a field. -/
theorem Partial.isField {place : Place} {cs text : List Char} (h : Partial place cs text)
    (hplace : place.CanEnd) : IsField cs text := by
  cases h with
  | start => exact .bare nofun
  | bare h => exact .bare h
  | closed h => exact .quoted h
  | quoted | carriageReturn => rcases hplace with h | h | h <;> cases h

/-- A text is spelt as what has been read of it: complete lines, complete fields of a line, and a
part of a field. -/
structure Reading.Spells (r : Reading) (lines before current : List Char) : Prop where
  rows : ∀ more texts, IsTable more texts → IsTable (r.rows ++ more) (lines ++ texts)
  row : ∀ more texts, IsRow more texts → IsRow (r.row ++ more) (before ++ texts)
  before : r.row = [] ↔ before = []
  field : Partial r.place r.field current

namespace Reading

variable {r next : Reading} {lines before current : List Char} {c : Char}

theorem spells_start : (⟨.start, [], [], []⟩ : Reading).Spells [] [] [] :=
  ⟨fun _ _ => id, fun _ _ => id, iff_of_true rfl rfl, .start⟩

theorem Spells.isRow (h : r.Spells lines before current) {text : List Char}
    (hfield : IsField r.field text) : IsRow r.fullRow (before ++ text) :=
  h.row _ _ (.last (by rwa [String.toList_ofList]))

/-- The end of a line completes it. -/
theorem Spells.lineEnd (h : r.Spells lines before current) {text ending : List Char}
    (hfield : IsField r.field text) (hending : IsLineEnd ending) :
    (⟨.start, [], [], r.rows ++ [r.fullRow]⟩ : Reading).Spells
      (lines ++ before ++ text ++ ending) [] [] := by
  refine ⟨fun more texts hmore => ?_, fun _ _ => id, iff_of_true rfl rfl, .start⟩
  have htable := h.rows _ _ (.line (h.isRow hfield) hending hmore)
  simpa only [List.append_assoc, List.singleton_append] using htable

/-- A comma completes a field. -/
theorem Spells.comma (h : r.Spells lines before current) (hfield : IsField r.field current) :
    (⟨.start, [], r.fullRow, r.rows⟩ : Reading).Spells lines (before ++ current ++ [',']) [] := by
  refine ⟨h.rows, fun more texts hmore => ?_, ?_, .start⟩
  · have hstring : IsField (String.ofList r.field).toList current := by
      rwa [String.toList_ofList]
    have hrow := h.row _ _ (.field hstring hmore)
    simpa only [fullRow, List.append_assoc, List.singleton_append] using hrow
  · simp [fullRow]

theorem Spells.delimiter? (h : r.Spells lines before current) (hplace : r.place.CanEnd)
    (hnext : r.delimiter? c = some next) : ∃ lines' before' current',
      lines ++ before ++ current ++ [c] = lines' ++ before' ++ current' ∧
      next.Spells lines' before' current' := by
  have hfield := h.field.isField hplace
  rw [Reading.delimiter?] at hnext
  split at hnext
  · next hc =>
    obtain rfl := Option.some.inj hnext
    exact ⟨_, _, _, by simp [hc], h.comma hfield⟩
  split at hnext
  · next hc =>
    obtain rfl := Option.some.inj hnext
    exact ⟨_, _, _, by simp [hc], h.lineEnd hfield .lineFeed⟩
  split at hnext
  · next hc =>
    obtain rfl := Option.some.inj hnext
    exact ⟨lines, before, current ++ ['\r'], by simp [hc], h.rows, h.row, h.before,
      .carriageReturn hfield⟩
  · cases hnext

/-- In the middle of a field only the field goes on. -/
theorem Spells.goOn (h : r.Spells lines before current) {place : Place} {cs : List Char}
    (hpart : Partial place cs (current ++ [c])) : ∃ lines' before' current',
      lines ++ before ++ current ++ [c] = lines' ++ before' ++ current' ∧
      ({ r with place := place, field := cs } : Reading).Spells lines' before' current' :=
  ⟨lines, before, current ++ [c], List.append_assoc .., h.rows, h.row, h.before, hpart⟩

/-- What one character adds is spelt by that character. -/
theorem Spells.step (h : r.Spells lines before current) (hnext : r.step c = some next) :
    ∃ lines' before' current',
      lines ++ before ++ current ++ [c] = lines' ++ before' ++ current' ∧
      next.Spells lines' before' current' := by
  obtain ⟨place, field, row, rows⟩ := r
  have hpart : Partial place field current := h.field
  cases hpart with
  | start =>
    simp only [Reading.step] at hnext
    split at hnext
    · next hc =>
      obtain rfl := Option.some.inj hnext
      exact h.goOn (hc ▸ .quoted .nil)
    split at hnext
    · next hc =>
      obtain rfl := Option.some.inj hnext
      exact h.goOn (.bare (by simpa using hc) (List.cons_ne_nil _ _))
    · exact h.delimiter? (.inl rfl) hnext
  | bare hall hne =>
    simp only [Reading.step] at hnext
    split at hnext
    · next hc =>
      obtain rfl := Option.some.inj hnext
      refine h.goOn (.bare ?_ (List.concat_ne_nil _ _))
      exact List.forall_mem_append.mpr ⟨hall, by simpa using hc⟩
    · exact h.delimiter? (.inr (.inl rfl)) hnext
  | quoted hescaped =>
    simp only [Reading.step] at hnext
    split at hnext
    · next hc =>
      obtain rfl := Option.some.inj hnext
      exact h.goOn (hc ▸ .closed hescaped)
    · next hc =>
      obtain rfl := Option.some.inj hnext
      exact h.goOn (.quoted (hescaped.char hc))
  | closed hescaped =>
    simp only [Reading.step] at hnext
    split at hnext
    · next hc =>
      obtain rfl := Option.some.inj hnext
      have htwo := Partial.quoted hescaped.quote
      exact h.goOn (by simpa [hc] using htwo)
    · exact h.delimiter? (.inr (.inr rfl)) hnext
  | carriageReturn hfield =>
    simp only [Reading.step] at hnext
    split at hnext
    · next hc =>
      obtain rfl := Option.some.inj hnext
      exact ⟨_, _, _, by simp [hc], h.lineEnd hfield .both⟩
    · cases hnext

theorem Spells.run (h : r.Spells lines before current) {text : List Char}
    (hrun : r.run text = some next) : ∃ lines' before' current',
      lines ++ before ++ current ++ text = lines' ++ before' ++ current' ∧
      next.Spells lines' before' current' := by
  induction text generalizing r lines before current with
  | nil =>
    obtain rfl := Option.some.inj hrun
    exact ⟨_, _, _, List.append_nil _, h⟩
  | cons c text ih =>
    obtain ⟨middle, hstep, hrest⟩ := Option.bind_eq_some_iff.mp hrun
    obtain ⟨lines', before', current', htext, hmiddle⟩ := h.step hstep
    obtain ⟨lines'', before'', current'', htexts, hlast⟩ := ih hmiddle hrest
    refine ⟨_, _, _, ?_, hlast⟩
    rw [← htexts, ← htext, List.append_assoc _ [c], List.singleton_append]

theorem Spells.finish? (h : r.Spells lines before current) {table : List (List String)}
    (hfinish : r.finish? = some table) : IsTable table (lines ++ before ++ current) := by
  obtain ⟨place, field, row, rows⟩ := r
  have hfull (hplace : place.CanEnd) (hne : before ++ current ≠ []) :
      IsTable (rows ++ [row ++ [String.ofList field]]) (lines ++ before ++ current) := by
    rw [List.append_assoc]
    exact h.rows _ _ (.last (h.isRow (h.field.isField hplace)) hne)
  have hpart : Partial place field current := h.field
  cases hpart with
  | start =>
    simp only [Reading.finish?] at hfinish
    split at hfinish
    · next hrow =>
      obtain rfl := Option.some.inj hfinish
      have htable := h.rows _ _ .nil
      rw [h.before.mp hrow]
      simpa using htable
    · next hrow =>
      obtain rfl := Option.some.inj hfinish
      have hne : before ≠ [] := fun hbefore => hrow (h.before.mpr hbefore)
      exact hfull (.inl rfl) (by simpa using hne)
  | bare hall hne =>
    obtain rfl := Option.some.inj hfinish
    exact hfull (.inr (.inl rfl)) fun hnil => hne (List.append_eq_nil_iff.mp hnil).2
  | closed hescaped =>
    obtain rfl := Option.some.inj hfinish
    exact hfull (.inr (.inr rfl)) (by simp)
  | quoted | carriageReturn => cases hfinish

end Reading

/-- The tables that are read are those of the grammar. -/
theorem read?_eq_some_iff {text : String} {table : List (List String)} :
    read? text = some table ↔ IsTable table text.toList := by
  constructor
  · intro h
    obtain ⟨r, hrun, hfinish⟩ := Option.bind_eq_some_iff.mp h
    obtain ⟨lines, before, current, htext, hspells⟩ := Reading.spells_start.run hrun
    rw [List.nil_append, List.nil_append, List.nil_append] at htext
    rw [htext]
    exact hspells.finish? hfinish
  · intro h
    obtain ⟨r, hrun, hfinish⟩ := Reading.run_table h []
    rw [read?, hrun]
    exact hfinish

/-- Either line end is one, also in the middle of a text between quotes, where it is text. -/
example : read? "a,\"b\"\"\r\n\"\r\n,c" = some [["a", "b\"\r\n"], ["", "c"]] := by decide

/-- A quote in the middle of a field is no text. -/
example : read? "a\"b" = none := by decide

/-! ## What is written is a table -/

theorem escaped_doubleQuotes (cs : List Char) : Escaped cs (doubleQuotes cs) := by
  induction cs using List.reverseRecOn with
  | nil => exact .nil
  | append_singleton cs c ih =>
    have hconcat : doubleQuotes (cs ++ [c]) =
        doubleQuotes cs ++ if c = '"' then ['"', '"'] else [c] := by
      simp [doubleQuotes]
    rw [hconcat]
    split
    · next hc => exact hc ▸ .quote ih
    · next hc => exact .char ih hc

theorem isSpecial_eq_false_iff {c : Char} : isSpecial c = false ↔ IsText c := by
  simp [isSpecial, IsText, and_assoc]

theorem isField_field (s : String) : IsField s.toList (field s) := by
  rw [field]
  split
  · exact .quoted (escaped_doubleQuotes s.toList)
  · next h =>
    rw [Bool.not_eq_true, List.any_eq_false] at h
    exact .bare fun c hc => isSpecial_eq_false_iff.mp (Bool.not_eq_true _ ▸ h c hc)

theorem isRow_intercalate {fields : List String} (hne : fields ≠ []) :
    IsRow fields ([','].intercalate (fields.map field)) := by
  induction fields with
  | nil => exact absurd rfl hne
  | cons s fields ih =>
    cases fields with
    | nil => simpa using IsRow.last (isField_field s)
    | cons next fields =>
      have hrest := ih (List.cons_ne_nil next fields)
      have hrow := IsRow.field (isField_field s) hrest
      simpa [List.intercalate] using hrow

theorem isTable_flatMap_row {table : List (List String)} (h : ∀ fields ∈ table, fields ≠ []) :
    IsTable table (table.flatMap row) := by
  induction table with
  | nil => exact .nil
  | cons fields table ih =>
    obtain ⟨hne, htable⟩ := List.forall_mem_cons.mp h
    rw [List.flatMap_cons]
    exact .line (isRow_intercalate hne) .lineFeed (ih htable)

/-- A table is read as it is written. -/
theorem read?_table {rows : List (List String)} (h : ∀ fields ∈ rows, fields ≠ []) :
    read? (table rows) = some rows := by
  rw [read?_eq_some_iff, table, String.toList_ofList]
  exact isTable_flatMap_row h

end SenderPolicy.Csv
