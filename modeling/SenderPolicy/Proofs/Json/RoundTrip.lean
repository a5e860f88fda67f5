import Mathlib
import SenderPolicy.Json.Codec.Policy
import SenderPolicy.Proofs.Expansion.Nesting
import SenderPolicy.Proofs.Expansion.Networks
import SenderPolicy.Proofs.Json.Reading
import SenderPolicy.Proofs.Net.Written

/-!
# Records are kept as JSON, if they have issues

Each type of a record is kept: its values are read from the JSON they are written as, one lemma to a
type.  The lemmas of a type are put together from the laws of its shape, and do not look at any
text.

A record leaves out its issues if it has none, and is refused if they are missing.  So a record is
decoded from its text exactly when something went wrong on its way: `decode_encode_of_isResult`.  An
explanation may be missing both ways.

The numbers of a record are kept if they fit.  Prefix lengths fit because networks are canonical;
depths fit if they are words of a machine (`InWords`), as they are in every resolution with a limit
that is not the largest word itself (`inWords_of_isResult`).
-/

namespace SenderPolicy.Json

/-! ## Addresses and networks -/

theorem kept_address (a : Address) : Kept a := by
  have hread : Address.read? a.text.toList = some a := by
    rw [Address.text, String.toList_ofList]
    exact Address.read?_chars a
  refine ⟨.str a.text, Shape.reads_text ?_, hread⟩
  rw [hread]
  rfl

theorem kept_network {n : Network} (h : n.prefixLength ≤ Network.maxPrefixLength) : Kept n := by
  obtain ⟨base, hbase, hvalue⟩ := kept_address n.base
  have hcount : (Shape.count Network.maxPrefixLength).Reads (.num n.prefixLength)
      (.num n.prefixLength) := Shape.reads_count h (Nat.le_trans h (by decide))
  refine ⟨_, Shape.reads_ofFields (.there hbase (.there hcount .nil)) (by decide) rfl, ?_⟩
  change (Codec.ofJson? base >>= fun a => some (⟨a, n.prefixLength⟩ : Network)) = some n
  rw [hvalue]
  rfl

/-! ## The parts of a record -/

theorem kept_action (action : Action) : Kept action := by
  refine ⟨Codec.toJson action, ?_, ?_⟩
  · cases action <;> exact Shape.reads_name rfl
  · cases action <;> rfl

theorem kept_entryTag (tag : EntryTag) : Kept tag := by
  refine ⟨Codec.toJson tag, ?_, ?_⟩
  · cases tag <;> exact Shape.reads_name rfl
  · cases tag <;> rfl

theorem kept_policyEntry (entry : PolicyEntry) : Kept entry := by
  obtain ⟨tag, htag, hvalue⟩ := kept_entryTag entry.tag
  have hstring := Shape.reads_string
  refine ⟨_, Shape.reads_ofFields (.there (hstring entry.domain) (.there (hstring entry.source)
    (.there htag (.there (hstring entry.value) .nil)))) (by decide) rfl, ?_⟩
  change (Codec.ofJson? tag >>= fun tag =>
    some (⟨entry.domain, entry.source, tag, entry.value⟩ : PolicyEntry)) = some entry
  rw [hvalue]
  rfl

theorem kept_knownAddress (known : KnownAddress) : Kept known := by
  obtain ⟨address, haddress, hvalue⟩ := kept_address known.address
  refine ⟨_, Shape.reads_ofFields (.there (Shape.reads_string known.origin)
    (.there haddress .nil)) (by decide) rfl, ?_⟩
  change (Codec.ofJson? address >>= fun a => some (⟨known.origin, a⟩ : KnownAddress)) = some known
  rw [hvalue]
  rfl

theorem kept_knownNetwork {known : KnownNetwork}
    (h : known.network.prefixLength ≤ Network.maxPrefixLength) : Kept known := by
  obtain ⟨network, hnetwork, hvalue⟩ := kept_network h
  refine ⟨_, Shape.reads_ofFields (.there (Shape.reads_string known.origin)
    (.there hnetwork .nil)) (by decide) rfl, ?_⟩
  change (Codec.ofJson? network >>= fun n => some (⟨known.origin, n⟩ : KnownNetwork)) = some known
  rw [hvalue]
  rfl

theorem kept_issue {issue : Issue}
    (h : ∀ domain depth, issue = .depthExceeded domain depth → depth ≤ maxCount) : Kept issue := by
  have hstring := Shape.reads_string
  cases issue with
  | cycleDetected domain =>
    exact ⟨_, Shape.reads_payload rfl (Shape.reads_ofFields (.there (hstring domain) .nil)
      (by decide) rfl), rfl⟩
  | depthExceeded domain depth =>
    exact ⟨_, Shape.reads_payload rfl (Shape.reads_ofFields (.there (hstring domain)
      (.there (Shape.reads_anyCount (h domain depth rfl)) .nil)) (by decide) rfl), rfl⟩
  | lookupFailed target message =>
    exact ⟨_, Shape.reads_payload rfl (Shape.reads_ofFields (.there (hstring target)
      (.there (hstring message) .nil)) (by decide) rfl), rfl⟩
  | malformedInclude domain message =>
    exact ⟨_, Shape.reads_payload rfl (Shape.reads_ofFields (.there (hstring domain)
      (.there (hstring message) .nil)) (by decide) rfl), rfl⟩
  | missingRecord domain =>
    exact ⟨_, Shape.reads_payload rfl (Shape.reads_ofFields (.there (hstring domain) .nil)
      (by decide) rfl), rfl⟩

/-! ## Records -/

/-- The counts of a record are words of a machine. -/
structure InWords (record : PolicyRecord) : Prop where
  depth : record.depth ≤ maxCount
  issues : ∀ domain depth, .depthExceeded domain depth ∈ record.issues → depth ≤ maxCount

/-- The fields of a record that are always there. -/
def lastingFields : List (String × Shape) :=
  [("domain", .string), ("source", .string), ("raw", .string), ("version", .string),
    ("depth", .anyCount), ("final_action", Codec.shape Action),
    ("entries", .list (Codec.shape PolicyEntry)),
    ("ip_addresses", .list (Codec.shape KnownAddress)),
    ("ip_networks", .list (Codec.shape KnownNetwork))]

/-- The members of a record for the fields that are always there. -/
def lastingMembers (record : PolicyRecord) (action entries addresses networks : Json) :
    List (String × Json) :=
  [("domain", .str record.domain), ("source", .str record.source), ("raw", .str record.raw),
    ("version", .str record.version), ("depth", .num record.depth), ("final_action", action),
    ("entries", entries), ("ip_addresses", addresses), ("ip_networks", networks)]

theorem exists_fieldsFound_lasting {record : PolicyRecord} (hdepth : record.depth ≤ maxCount)
    (hlengths : ∀ known ∈ record.networks,
      known.network.prefixLength ≤ Network.maxPrefixLength) :
    ∃ action entries addresses networks,
      FieldsFound lastingFields
        (lastingMembers record (Codec.toJson record.action) (ofList record.entries)
          (ofList record.addresses) (ofList record.networks))
        (lastingMembers record action entries addresses networks) ∧
      Codec.ofJson? action = some record.action ∧ toList? entries = some record.entries ∧
      toList? addresses = some record.addresses ∧ toList? networks = some record.networks := by
  have hstring := Shape.reads_string
  obtain ⟨action, haction, hactionValue⟩ := kept_action record.action
  obtain ⟨entries, hentries, hentriesValue⟩ :=
    exists_reads_ofList fun entry (_ : entry ∈ record.entries) => kept_policyEntry entry
  obtain ⟨addresses, haddresses, haddressesValue⟩ :=
    exists_reads_ofList fun known (_ : known ∈ record.addresses) => kept_knownAddress known
  obtain ⟨networks, hnetworks, hnetworksValue⟩ :=
    exists_reads_ofList fun known hknown => kept_knownNetwork (hlengths known hknown)
  refine ⟨action, entries, addresses, networks, ?_, hactionValue, hentriesValue, haddressesValue,
    hnetworksValue⟩
  exact .there (hstring _) <| .there (hstring _) <| .there (hstring _) <| .there (hstring _) <|
    .there (Shape.reads_anyCount hdepth) <| .there haction <| .there hentries <|
    .there haddresses <| .there hnetworks .nil

/-- An explanation is there if there is one. -/
theorem fieldsFound_explanation (explanation : Option String) :
    FieldsFound [("explanation", .optional .string)]
      (member? "explanation" (explanation.map .str)).toList
      (member? "explanation" (explanation.map .str)).toList := by
  cases explanation with
  | none => exact .missing .nil
  | some text => exact .there (Shape.reads_optional (Shape.reads_string text) nofun) .nil

/-- Issues are there if there are any. -/
theorem exists_fieldsFound_issues {issues : List Issue} (hsome : issues ≠ [])
    (h : ∀ domain depth, .depthExceeded domain depth ∈ issues → depth ≤ maxCount) :
    ∃ settled, FieldsFound [("issues", .list (Codec.shape Issue))]
        (items? "issues" (issues.map Codec.toJson)).toList [("issues", settled)] ∧
      toList? settled = some issues := by
  obtain ⟨settled, hreads, hvalue⟩ := exists_reads_ofList fun issue (hissue : issue ∈ issues) =>
    kept_issue fun domain depth heq => h domain depth (heq ▸ hissue)
  have hthere : (items? "issues" (issues.map Codec.toJson)).toList =
      [("issues", ofList issues)] := by
    cases issues with
    | nil => exact absurd rfl hsome
    | cons issue issues => rfl
  rw [hthere]
  exact ⟨settled, .there hreads .nil, hvalue⟩

theorem object_append (members : List (String × Json)) (first second : Option (String × Json)) :
    object (members.map some ++ [first, second]) =
      .obj (members ++ first.toList ++ second.toList) := by
  rw [object, List.filterMap_append, List.filterMap_map]
  cases first <;> cases second <;> simp

/-- The members of a record: those that are always there, and the two that may be left out. -/
theorem toJson_policyRecord (record : PolicyRecord) :
    Codec.toJson record = .obj (
      lastingMembers record (Codec.toJson record.action) (ofList record.entries)
        (ofList record.addresses) (ofList record.networks) ++
      (member? "explanation" (record.explanation.map .str)).toList ++
      (items? "issues" (record.issues.map Codec.toJson)).toList) := by
  rw [← object_append]
  rfl

/-- The explanation may be missing from what was found, and is null then. -/
theorem settle_of_issues (record : PolicyRecord) (action entries addresses networks issues : Json) :
    (Fields.ofList (lastingFields ++ [("explanation", .optional .string)] ++
        [("issues", .list (Codec.shape Issue))])).settle
      (lastingMembers record action entries addresses networks ++
        (member? "explanation" (record.explanation.map .str)).toList ++ [("issues", issues)]) =
    some (lastingMembers record action entries addresses networks ++
      [("explanation", orNull (record.explanation.map .str)), ("issues", issues)]) := by
  cases record.explanation <;> rfl

/-- The issues may not. -/
theorem settle_of_no_issues (record : PolicyRecord) (action entries addresses networks : Json) :
    (Fields.ofList (lastingFields ++ [("explanation", .optional .string)] ++
        [("issues", .list (Codec.shape Issue))])).settle
      (lastingMembers record action entries addresses networks ++
        (member? "explanation" (record.explanation.map .str)).toList ++ []) = none := by
  cases record.explanation <;> rfl

/-- Without issues a record is not decoded from its text, and with issues it is. -/
theorem decode_encode_policyRecord {record : PolicyRecord} (hwords : InWords record)
    (hlengths : ∀ known ∈ record.networks,
      known.network.prefixLength ≤ Network.maxPrefixLength) :
    decode (encode record) = if record.issues = [] then .error .mismatch else .ok record := by
  obtain ⟨action, entries, addresses, networks, hfields, haction, hentries, haddresses,
    hnetworks⟩ := exists_fieldsFound_lasting hwords.depth hlengths
  replace hfields := hfields.append (fieldsFound_explanation record.explanation)
  by_cases hissues : record.issues = []
  · have hmissing : FieldsFound [("issues", .list (Codec.shape Issue))] [] [] := .missing .nil
    have hjson := toJson_policyRecord record
    rw [hissues] at hjson
    rw [if_pos hissues]
    exact decode_encode_eq_mismatch rfl hjson (hfields.append hmissing) (by decide)
      (settle_of_no_issues record action entries addresses networks)
  · rw [if_neg hissues]
    obtain ⟨issues, hfound, hvalue⟩ := exists_fieldsFound_issues hissues hwords.issues
    refine decode_encode ⟨.obj (lastingMembers record action entries addresses networks ++
      [("explanation", orNull (record.explanation.map .str)), ("issues", issues)]), ?_, ?_⟩
    · rw [toJson_policyRecord]
      exact Shape.reads_ofFields (hfields.append hfound) (by decide)
        (settle_of_issues record action entries addresses networks issues)
    · have hexplanation : asOptionalString? (orNull (record.explanation.map .str)) =
          some record.explanation := by
        cases record.explanation <;> rfl
      change (do
        return { record with
          action := ← Codec.ofJson? action
          entries := ← toList? entries
          addresses := ← toList? addresses
          networks := ← toList? networks
          explanation := ← asOptionalString? (orNull (record.explanation.map .str))
          issues := ← toList? issues }) = some record
      rw [haction, hentries, haddresses, hnetworks, hexplanation, hvalue]
      rfl

/-! ## Results -/

open Expansion

variable {resolver : Resolver} {options : ResolveOptions} {records : List PolicyRecord}

/-- The depth that a record refuses is one more than its own. -/
theorem depth_of_depthExceeded {record : PolicyRecord} (h : IsResult resolver options records)
    (hrecord : record ∈ records) {domain : String} {depth : Nat}
    (hissue : .depthExceeded domain depth ∈ record.issues) : depth = record.depth + 1 := by
  obtain ⟨statement, outcomes, -, heq⟩ := exists_recordOf_of_isResult h hrecord
  rw [heq] at hissue
  rcases lookupIssue_or_of_mem_issues hissue with
    ⟨⟨token, term⟩, -, hlookup⟩ | ⟨i, clause, target, outcome, -, -, -, hissue⟩
  · cases hlookup
  · cases outcome with
    | tooDeep => injection List.mem_singleton.mp hissue
    | answered texts =>
      obtain ⟨raw, -, hraw⟩ := List.mem_filterMap.mp hissue
      rw [malformedIssue?] at hraw
      split at hraw <;> cases hraw
    | _ => cases List.mem_singleton.mp hissue

/-- With a limit below the largest word no count of a result leaves the words. -/
theorem inWords_of_isResult (hlimit : options.maxDepth < maxCount)
    (h : IsResult resolver options records) {record : PolicyRecord} (hrecord : record ∈ records) :
    InWords record := by
  have hdepth : record.depth ≤ options.maxDepth := by
    obtain ⟨visits, hvisits, rfl⟩ := exists_resolved_of_isResult h
    obtain ⟨visit, hvisit, rfl⟩ := List.mem_map.mp hrecord
    exact hvisits.depth_le (measures_maxDepth resolver options) (fun _ => Nat.sub_le ..) visit
      hvisit
  refine ⟨by omega, fun domain depth hissue => ?_⟩
  rw [depth_of_depthExceeded h hrecord hissue]
  omega

/-- A record of a result is decoded from its text if it has issues, and refused if it has none. -/
theorem decode_encode_of_isResult (h : IsResult resolver options records) {record : PolicyRecord}
    (hrecord : record ∈ records) (hwords : InWords record) :
    decode (encode record) = if record.issues = [] then .error .mismatch else .ok record := by
  refine decode_encode_policyRecord hwords fun known hknown => ?_
  have hcanonical := canonical_of_mem_networks h hrecord hknown
  have hwidth : known.network.base.family.width ≤ Network.maxPrefixLength := by
    cases known.network.base.family <;> decide
  exact Nat.le_trans hcanonical.1 hwidth

/-- A text that has an explanation and leads to a name without a policy, and a text that it leads
to, which has an address and a network and nothing to complain about. -/
theorem decode_encode_of_zone :
    let resolver := Zone.resolver [
      ⟨"b", .txt, .ok [.text "v=spf1 a ip4:198.51.100.0/24"]⟩,
      ⟨"b", .a, .ok [.address (.ofNat .v4 0xC0000201)]⟩, ⟨"e", .txt, .ok [.text "\"no\""]⟩]
    let options : ResolveOptions := { fetchExplanation := true }
    let first : PolicyRecord :=
      ⟨"a", "a", "v=spf1 include:b include:c exp=e", "spf1", 0, .neutral,
        [⟨"a", "a", .inclusion, "b"⟩, ⟨"a", "a", .inclusion, "c"⟩, ⟨"a", "a", .explanation, "e"⟩],
        [], [], some "\"no\"", [.missingRecord "c"]⟩
    let second : PolicyRecord :=
      ⟨"a", "b", "v=spf1 a ip4:198.51.100.0/24", "spf1", 1, .neutral,
        [⟨"a", "b", .a, ""⟩, ⟨"a", "b", .ip4, "198.51.100.0/24"⟩],
        [⟨"b a", .ofNat .v4 0xC0000201⟩], [⟨"b", ⟨.ofNat .v4 0xC6336400, 24⟩⟩], none, []⟩
    IsResult resolver options [first, second] ∧ decode (encode first) = .ok first ∧
      (decode (encode second) : Except Fault PolicyRecord) = .error .mismatch := by
  intro resolver options first second
  have hresult : IsResult resolver options [first, second] := by
    refine Or.inl ⟨"a", "v=spf1 include:b include:c exp=e", outcome_parseRecord_eq_ok.mpr
      ⟨"a", ⟨"spf1", .neutral, [⟨"v=spf1", .version "spf1"⟩, ⟨"include:b", .inclusion "b"⟩,
        ⟨"include:c", .inclusion "c"⟩, ⟨"exp=e", .explanation "e"⟩]⟩, rfl,
        by decide +kernel, by decide +kernel⟩⟩
  have hlimit : options.maxDepth < maxCount := by decide
  have hfirst : first ∈ [first, second] := List.mem_cons_self ..
  have hsecond : second ∈ [first, second] := List.mem_cons_of_mem _ (List.mem_cons_self ..)
  exact ⟨hresult,
    decode_encode_of_isResult hresult hfirst (inWords_of_isResult hlimit hresult hfirst),
    decode_encode_of_isResult hresult hsecond (inWords_of_isResult hlimit hresult hsecond)⟩

/-- A text that does nothing but end is enough for a record that is refused. -/
theorem not_forall_decode_encode :
    ¬∀ (resolver : Resolver) (options : ResolveOptions) (records : List PolicyRecord),
      IsResult resolver options records → ∀ record ∈ records,
        decode (encode record) = .ok record := by
  intro h
  let record : PolicyRecord :=
    ⟨"a", "a", "v=spf1 -all", "spf1", 0, .fail, [], [], [], none, []⟩
  have hresult : IsResult (Zone.resolver []) {} [record] := by
    refine Or.inl ⟨"a", "v=spf1 -all", outcome_parseRecord_eq_ok.mpr
      ⟨"a", ⟨"spf1", .fail, [⟨"v=spf1", .version "spf1"⟩]⟩, rfl,
        by decide +kernel, by decide +kernel⟩⟩
  have hkept : decode (encode record) = .ok record :=
    h _ _ _ hresult record (List.mem_singleton_self _)
  have hwords : InWords record := ⟨Nat.zero_le _, by simp [record]⟩
  have hrefused := decode_encode_policyRecord hwords (by simp [record])
  cases hkept.symm.trans hrefused

end SenderPolicy.Json
