import SenderPolicy.Proofs.Report.CsvReading
import SenderPolicy.Proofs.Text.Fields
import SenderPolicy.Report.Data

/-!
# The table of a report is an inventory

Whatever is in the texts of a report, its table is read in one way only, and every row is still
about what it was written about.  The rows come in blocks, one for each report, in order
(`SheetRows`): the one row of an error, and otherwise the rows of the records, one record after
the other (`RecordRows`).

* `csv_inventory`: the table of any reports is the header and their blocks, and is no other table.
-/

namespace SenderPolicy.Report.Sheet

/-- A row of the table. -/
structure Row where
  domain : String
  source : String
  depth : String
  action : String
  kind : String
  value : String
  origin : String

/-- The fields of a row. -/
def Row.cells (row : Row) : List String :=
  [row.domain, row.source, row.depth, row.action, row.kind, row.value, row.origin]

/-- The row for something that a record of a domain authorises. -/
def Row.ofRecord (domain : String) (record : PolicyRecord) (kind value origin : String) : Row :=
  ⟨domain, record.source, record.depth.repr, record.action.word, kind, value, origin⟩

/-- A row for each address of a record and then a row for each of its networks. -/
def RecordRows (domain : String) (record : PolicyRecord) (rows : List Row) : Prop :=
  ∃ addresses networks, rows = addresses ++ networks ∧
    List.Forall₂ (fun (known : KnownAddress) row =>
      row = .ofRecord domain record "address" known.address.text known.origin)
      record.addresses addresses ∧
    List.Forall₂ (fun (known : KnownNetwork) row =>
      row = .ofRecord domain record "network" known.network.text known.origin)
      record.networks networks

/-- The rows for a report. -/
inductive SheetRows (sheet : Sheet) : List Row → Prop
  /-- An error is all there is to say. -/
  | failed {message : String} (h : sheet.error = some message) :
      SheetRows sheet [⟨sheet.domain, "", "", "", "error", message, ""⟩]
  | resolved {blocks : List (List Row)} (h : sheet.error = none)
      (hblocks : List.Forall₂ (RecordRows sheet.domain) sheet.records blocks) :
      SheetRows sheet blocks.flatten

/-- The lines of a table with blocks of rows. -/
def linesOf (blocks : List (List Row)) : List (List String) :=
  ["domain", "source", "depth", "action", "kind", "value", "origin"] ::
    blocks.flatten.map Row.cells

/-- A text is read as a header and blocks of rows, and as nothing else. -/
structure IsInventory (text : String) (blocks : List (List Row)) : Prop where
  reads : Csv.read? text = some (linesOf blocks)
  isTable_iff : ∀ table, Csv.IsTable table text.toList ↔ table = linesOf blocks
  /-- All lines have as many fields as there are columns. -/
  width : ∀ table, Csv.read? text = some table → ∀ row ∈ table, row.length = 7

theorem exists_recordRows (domain : String) (record : PolicyRecord) :
    ∃ rows, RecordRows domain record rows ∧ recordRows domain record = rows.map Row.cells := by
  let addressRow (known : KnownAddress) : Row :=
    .ofRecord domain record "address" known.address.text known.origin
  let networkRow (known : KnownNetwork) : Row :=
    .ofRecord domain record "network" known.network.text known.origin
  refine ⟨record.addresses.map addressRow ++ record.networks.map networkRow,
    ⟨_, _, rfl, ?addresses, ?networks⟩, ?cells⟩
  case addresses => exact forall₂_map_right fun _ _ => rfl
  case networks => exact forall₂_map_right fun _ _ => rfl
  case cells =>
    rw [List.map_append, List.map_map, List.map_map]
    rfl

/-- Blocks that are written one after the other. -/
theorem exists_blocks {α : Type} {R : α → List Row → Prop} {write : α → List (List String)}
    (h : ∀ a, ∃ rows, R a rows ∧ write a = rows.map Row.cells) (as : List α) :
    ∃ blocks, List.Forall₂ R as blocks ∧ as.flatMap write = blocks.flatten.map Row.cells := by
  induction as with
  | nil => exact ⟨[], .nil, rfl⟩
  | cons a as ih =>
    obtain ⟨rows, hrows, hwrite⟩ := h a
    obtain ⟨blocks, hblocks, hrest⟩ := ih
    refine ⟨rows :: blocks, .cons hrows hblocks, ?_⟩
    rw [List.flatMap_cons, List.flatten_cons, List.map_append, hwrite, hrest]

theorem exists_sheetRows (sheet : Sheet) :
    ∃ rows, SheetRows sheet rows ∧ sheet.rows = rows.map Row.cells := by
  rw [rows]
  cases herror : sheet.error with
  | some message => exact ⟨_, .failed herror, rfl⟩
  | none =>
    obtain ⟨blocks, hblocks, hwrite⟩ := exists_blocks (exists_recordRows sheet.domain) sheet.records
    exact ⟨_, .resolved herror hblocks, hwrite⟩

theorem length_of_mem_linesOf {blocks : List (List Row)} {row : List String}
    (h : row ∈ linesOf blocks) : row.length = 7 := by
  rcases List.mem_cons.mp h with rfl | h
  · rfl
  · obtain ⟨row, -, rfl⟩ := List.mem_map.mp h
    rfl

/-- The table of any reports is the header and then, report by report in order, the rows for it. -/
theorem csv_inventory (sheets : List Sheet) :
    ∃ blocks, List.Forall₂ SheetRows sheets blocks ∧ IsInventory (csv sheets) blocks := by
  obtain ⟨blocks, hblocks, hwrite⟩ := exists_blocks exists_sheetRows sheets
  have hcsv : csv sheets = Csv.table (linesOf blocks) := by
    rw [csv, hwrite]
    rfl
  have hreads : Csv.read? (csv sheets) = some (linesOf blocks) := by
    rw [hcsv]
    refine Csv.read?_table fun row hrow hnil => ?_
    have hlength := length_of_mem_linesOf hrow
    rw [hnil] at hlength
    cases hlength
  refine ⟨blocks, hblocks, hreads, fun table => ?_, fun table htable row hrow => ?_⟩
  · rw [← Csv.read?_eq_some_iff, hreads, Option.some_inj, eq_comm]
  · obtain rfl := Option.some.inj (hreads.symm.trans htable)
    exact length_of_mem_linesOf hrow

end SenderPolicy.Report.Sheet
