import SenderPolicy.Proofs.Json.Values
import SenderPolicy.Proofs.Text.Fields
import SenderPolicy.Report.Data

/-!
# The two JSON outputs say the same

The reports are written as one array over several lines, or as one object to a line.  Either way
they are the same values: each line is a text of its own, the array is one text, and what is read
from the lines one by one is what is read from the array (`Agreement`).

What there is nothing to say about is left out of an object.  `HasMembers` says which members an
object has, in terms of what would be in each of them; `Shows` and `ShowsRecord` say so of reports
and records.

* `jsonLines_agrees_with_json`: the two outputs of any reports agree.
-/

namespace SenderPolicy

namespace Json

/-! ## Members that may be left out -/

/-- The value of a member. -/
def field? : Json → String → Option Json
  | .obj members, name => found? members name
  | _, _ => none

/-- An object has the members that have values, and no others, and each of them once. -/
structure HasMembers (v : Json) (slots : List (String × Option Json)) : Prop where
  once : ∃ members, v = .obj members ∧ (members.map Prod.fst).Nodup
  field?_eq : ∀ name value?, (name, value?) ∈ slots → v.field? name = value?
  none_else : ∀ name, name ∉ slots.map Prod.fst → v.field? name = none

/-- The members that have values. -/
def present (slots : List (String × Option Json)) : List (String × Json) :=
  slots.filterMap fun slot => slot.2.map fun value => (slot.1, value)

/-- A list that is there only if it has items. -/
def nonempty? (items : List Json) : Option Json := if items = [] then none else some (.arr items)

variable {slots : List (String × Option Json)} {name : String} {value? : Option Json}

theorem names_present_sublist (slots : List (String × Option Json)) :
    ((present slots).map Prod.fst).Sublist (slots.map Prod.fst) := by
  induction slots with
  | nil => exact List.Sublist.refl _
  | cons slot slots ih =>
    obtain ⟨name, _ | value⟩ := slot
    · exact ih.cons name
    · exact ih.cons_cons name

theorem found?_cons (pair : String × Json) (members : List (String × Json)) (name : String) :
    found? (pair :: members) name = if pair.1 = name then some pair.2 else found? members name := by
  rw [found?, List.find?_cons]
  by_cases h : pair.1 = name
  · simp [h]
  · have hmiss : (pair.1 == name) = false := beq_eq_false_iff_ne.mpr h
    rw [hmiss, if_neg h]
    rfl

theorem found?_eq_none {members : List (String × Json)} (h : name ∉ members.map Prod.fst) :
    found? members name = none := by
  induction members with
  | nil => rfl
  | cons pair members ih =>
    rw [List.map_cons, List.mem_cons, not_or] at h
    rw [found?_cons, if_neg (Ne.symm h.1), ih h.2]

theorem found?_present (hnodup : (slots.map Prod.fst).Nodup) (h : (name, value?) ∈ slots) :
    found? (present slots) name = value? := by
  induction slots with
  | nil => exact absurd h List.not_mem_nil
  | cons slot slots ih =>
    rw [List.map_cons, List.nodup_cons] at hnodup
    rcases List.mem_cons.mp h with rfl | htail
    · have hnone : found? (present slots) name = none :=
        found?_eq_none fun hmem => hnodup.1 ((names_present_sublist slots).subset hmem)
      cases value? with
      | none => exact hnone
      | some value => exact (found?_cons (name, value) _ name).trans (if_pos rfl)
    · have hne : slot.1 ≠ name := by
        rintro rfl
        exact hnodup.1 (List.mem_map.mpr ⟨_, htail, rfl⟩)
      obtain ⟨first, _ | value⟩ := slot
      · exact ih hnodup.2 htail
      · exact (found?_cons (first, value) _ name).trans ((if_neg hne).trans (ih hnodup.2 htail))

theorem hasMembers_of_eq {v : Json} (hv : v = .obj (present slots))
    (hnodup : (slots.map Prod.fst).Nodup) : v.HasMembers slots where
  once := ⟨_, hv, hnodup.sublist (names_present_sublist slots)⟩
  field?_eq _ _ h := by
    rw [hv]
    exact found?_present hnodup h
  none_else _ h := by
    rw [hv]
    exact found?_eq_none fun hmem => h ((names_present_sublist slots).subset hmem)

end Json

namespace Report.Sheet

open Json

/-! ## What the outputs show -/

/-- A value tells of a record. -/
def ShowsRecord (record : PolicyRecord) (v : Json) : Prop :=
  v.HasMembers
    [("domain", some (.str record.domain)), ("source", some (.str record.source)),
      ("raw", some (.str record.raw)), ("version", some (.str record.version)),
      ("depth", some (.num record.depth)), ("final_action", some (Codec.toJson record.action)),
      ("entries", some (ofList record.entries)), ("ip_addresses", some (ofList record.addresses)),
      ("ip_networks", some (ofList record.networks)),
      ("explanation", record.explanation.map .str),
      ("issues", nonempty? (record.issues.map Codec.toJson))]

/-- A value tells of a report. -/
def Shows (sheet : Sheet) (v : Json) : Prop :=
  ∃ records, List.Forall₂ ShowsRecord sheet.records records ∧
    v.HasMembers
      [("domain", some (.str sheet.domain)), ("records", nonempty? records),
        ("error", sheet.error.map .str), ("skipped", sheet.skipped.map .str)]

/-- The lines of one output and the array of the other say the same. -/
structure Agreement (sheets : List Sheet) (lines : List String) (values : List Json) : Prop where
  /-- One output is made of lines that are ended by line feeds. -/
  jsonLines_eq : jsonLines sheets = String.join (lines.map fun line => line ++ "\n")
  /-- There is one for each report. -/
  length_eq : lines.length = sheets.length
  /-- No line feed is inside a line. -/
  newline_not_mem : ∀ line ∈ lines, '\n' ∉ line.toList
  parse_line : List.Forall₂ (fun line value => parse line = .ok value) lines values
  parse_json : parse (json sheets) = .ok (.arr values)
  shows_values : List.Forall₂ Shows sheets values

theorem showsRecord_toJson (record : PolicyRecord) : ShowsRecord record (Codec.toJson record) := by
  refine hasMembers_of_eq ?_ (by simp)
  obtain ⟨domain, source, raw, version, depth, action, entries, addresses, networks, explanation,
    issues⟩ := record
  cases explanation <;> cases issues <;> rfl

theorem shows_toJson (sheet : Sheet) : Shows sheet sheet.toJson := by
  refine ⟨sheet.records.map Codec.toJson, ?_, hasMembers_of_eq ?_ (by simp)⟩
  · exact forall₂_map_right fun record _ => showsRecord_toJson record
  · obtain ⟨domain, records, error, skipped⟩ := sheet
    cases records <;> cases error <;> cases skipped <;> rfl

/-- The two outputs of any reports agree. -/
theorem jsonLines_agrees_with_json (sheets : List Sheet) :
    ∃ lines values, Agreement sheets lines values := by
  refine ⟨sheets.map fun sheet => sheet.toJson.compact, sheets.map toJson, ?_⟩
  constructor
  · rw [jsonLines, List.map_map]
    rfl
  · rw [List.length_map]
  · rw [List.forall_mem_map]
    exact fun sheet _ => newline_not_mem_compact sheet.toJson
  · rw [List.forall₂_map_left_iff, List.forall₂_map_right_iff, List.forall₂_same]
    exact fun sheet _ => parse_compact sheet.toJson
  · exact parse_pretty _
  · exact forall₂_map_right fun sheet _ => shows_toJson sheet

end Report.Sheet

end SenderPolicy
