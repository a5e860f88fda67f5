import SenderPolicy.Proofs.Expansion.Deliveries

/-!
# The inventory of a record

What a record authorises is a list of addresses and a list of networks, and this file says what
stands in them, in which order and how often.

* `Inventoried`: the addresses that lookups brought are those that the clauses bring, each in the
  one place where it belongs; after them come the addresses that the text gives literally, and
  likewise for networks.  A mask that does not fit an address is noted behind the clause.
* `inventoried_of_isResult`: every record of a result is of that kind.

All of it is said with the record's own text, the name that published it and the answers of the
resolver.  The records beside it do not enter, so nothing is put down to the wrong one.
-/

namespace SenderPolicy

open Statement

namespace PolicyRecord

/-- The clauses of the record in front of the first `all`. -/
def clauses (record : PolicyRecord) : List Clause := active (allClauses record.raw)

/-- The addresses that the clauses of the record bring, clause by clause. -/
def deliveries (resolver : Resolver) (record : PolicyRecord) : List Delivery :=
  record.clauses.flatMap (·.deliveries resolver record.source)

/-- The addresses that the text of the record gives literally. -/
def literalAddresses (record : PolicyRecord) : List KnownAddress :=
  (record.clauses.filterMap (·.term.literalAddress?)).map (⟨record.source, ·⟩)

/-- The networks that the text of the record gives literally. -/
def literalNetworks (record : PolicyRecord) : List KnownNetwork :=
  (record.clauses.filterMap (·.term.literalNetwork?)).map (⟨record.source, ·⟩)

/-- The entries for the addresses that no mask of the record fits. -/
def misfits (resolver : Resolver) (record : PolicyRecord) : List PolicyEntry :=
  record.clauses.flatMap (·.misfits resolver record.domain record.source)

/-- What the record holds is what its text and the answers of the resolver come to. -/
structure Inventoried (resolver : Resolver) (record : PolicyRecord) : Prop where
  /-- The addresses that no mask applies to, and then those that the text gives. -/
  addresses_eq : record.addresses =
    (record.deliveries resolver).filterMap (·.place.address?) ++ record.literalAddresses
  /-- The networks that masks make, and then those that the text gives. -/
  networks_eq : record.networks =
    (record.deliveries resolver).filterMap (·.place.network?) ++ record.literalNetworks
  /-- Each clause is noted, if at all, in an entry of its own, and behind it stands an entry for
  each address that is too short for the mask of the clause. -/
  entries_eq : record.entries = record.clauses.flatMap fun clause =>
    ((clause.stated? record.domain record.source).map PolicyEntry.settled).toList ++
      clause.misfits resolver record.domain record.source
  /-- No address that a lookup brought is lost, and none is used twice. -/
  length_add_length : record.addresses.length + record.networks.length +
      (record.misfits resolver).length =
    (record.deliveries resolver).length + record.literalAddresses.length +
      record.literalNetworks.length

end PolicyRecord

namespace Expansion

variable {resolver : Resolver} {options : ResolveOptions}

theorem addresses_recordOf (site : Site) (raw : String) (statement : Statement)
    (outcomes : List (Option Outcome)) :
    (recordOf resolver options site raw statement outcomes).addresses =
      (statement.clauses.flatMap (·.deliveries resolver site.source)).filterMap
          (·.place.address?) ++
        (statement.clauses.filterMap (·.term.literalAddress?)).map (⟨site.source, ·⟩) := by
  have hrecord : (recordOf resolver options site raw statement outcomes).addresses =
      (Findings.join (statement.clauses.map (own resolver options site))).addresses ++
        ((statement.clauses.filterMap Literal.ofClause?).filterMap Literal.address?).map
          (⟨site.source, ·⟩) := rfl
  rw [hrecord, Findings.listed_addresses.join_map, List.filterMap_flatMap, List.filterMap_filterMap]
  simp only [addresses_own, Clause.bind_address?]

theorem networks_recordOf (site : Site) (raw : String) (statement : Statement)
    (outcomes : List (Option Outcome)) :
    (recordOf resolver options site raw statement outcomes).networks =
      (statement.clauses.flatMap (·.deliveries resolver site.source)).filterMap
          (·.place.network?) ++
        (statement.clauses.filterMap (·.term.literalNetwork?)).map (⟨site.source, ·⟩) := by
  have hrecord : (recordOf resolver options site raw statement outcomes).networks =
      (Findings.join (statement.clauses.map (own resolver options site))).networks ++
        ((statement.clauses.filterMap Literal.ofClause?).filterMap Literal.network?).map
          (⟨site.source, ·⟩) := rfl
  rw [hrecord, Findings.listed_networks.join_map, List.filterMap_flatMap, List.filterMap_filterMap]
  simp only [networks_own, Clause.bind_network?]

/-- The entries for addresses that no mask fits are as many as the placements of that kind. -/
theorem length_misfits (record : PolicyRecord) :
    (record.misfits resolver).length =
      ((record.deliveries resolver).filterMap (·.place.misfit?)).length := by
  have hmap : record.misfits resolver =
      ((record.deliveries resolver).filterMap (·.place.misfit?)).map fun value =>
        ⟨record.domain, record.source, .invalidNetwork, value⟩ := by
    rw [PolicyRecord.misfits, PolicyRecord.deliveries, List.filterMap_flatMap, List.map_flatMap]
    simp only [Clause.misfits, List.map_filterMap]
  rw [hmap, List.length_map]

theorem inventoried_of_isResult {records : List PolicyRecord}
    (h : IsResult resolver options records) :
    ∀ record ∈ records, record.Inventoried resolver := by
  intro record hrecord
  obtain ⟨statement, outcomes, hraw, heq⟩ := exists_recordOf_of_isResult h hrecord
  have hclauses : statement.clauses = record.clauses := clauses_of_parse_eq_ok hraw
  have haddresses : record.addresses =
      (record.deliveries resolver).filterMap (·.place.address?) ++ record.literalAddresses := by
    rw [PolicyRecord.deliveries, PolicyRecord.literalAddresses, ← hclauses]
    exact (congrArg PolicyRecord.addresses heq).trans (addresses_recordOf ..)
  have hnetworks : record.networks =
      (record.deliveries resolver).filterMap (·.place.network?) ++ record.literalNetworks := by
    rw [PolicyRecord.deliveries, PolicyRecord.literalNetworks, ← hclauses]
    exact (congrArg PolicyRecord.networks heq).trans (networks_recordOf ..)
  refine ⟨haddresses, hnetworks, ?_, ?_⟩
  · rw [← hclauses]
    refine (congrArg PolicyRecord.entries heq).trans ?_
    simp only [entries_recordOf, entries_own]
  · have hplaced := Placement.length_filterMap ((record.deliveries resolver).map Delivery.place)
    simp only [List.filterMap_map, Function.comp_def, List.length_map] at hplaced
    rw [haddresses, hnetworks, List.length_append, List.length_append, length_misfits]
    omega

/-- A host with addresses of both families under a prefix for one of them, an exchange that cannot
be looked up beside one that can, a prefix that is too long for the address that it meets, literals
of the right and of the wrong family, and an included policy. -/
theorem inventoried_of_zone :
    let resolver := Zone.resolver
      [⟨"a", .a, .ok [.address (.ofNat .v4 0xC0000201)]⟩,
        ⟨"a", .aaaa, .ok [.address (.ofNat .v6 1)]⟩,
        ⟨"m", .mx, .ok [.name "x", .name "y"]⟩,
        ⟨"x", .a, .error (.unanswered "x" .a "SERVFAIL")⟩,
        ⟨"y", .a, .ok [.address (.ofNat .v4 0xC0000202)]⟩,
        ⟨"b", .txt, .ok [.text "v=spf1 a:y/33"]⟩]
    let records : List PolicyRecord :=
      [{ domain := "a", source := "a"
         raw := "v=spf1 a//64 include:b mx:m ip4:192.0.2.9 ip6:192.0.2.0/24 ~all"
         version := "spf1", depth := 0, action := .softFail
         entries := [⟨"a", "a", .a, "//64"⟩, ⟨"a", "a", .inclusion, "b"⟩, ⟨"a", "a", .mx, "m"⟩,
           ⟨"a", "a", .ip4, "192.0.2.9"⟩, ⟨"a", "a", .invalidNetwork, "192.0.2.0/24"⟩]
         addresses := [⟨"a a//64", .ofNat .v4 0xC0000201⟩, ⟨"y mx:m", .ofNat .v4 0xC0000202⟩,
           ⟨"a", .ofNat .v4 0xC0000209⟩]
         networks := [⟨"a a//64", .ofNat .v6 0, 64⟩], explanation := none
         issues := [.lookupFailed "x" "A lookup failed for x: SERVFAIL"] },
       { domain := "a", source := "b", raw := "v=spf1 a:y/33", version := "spf1", depth := 1
         action := .neutral
         entries := [⟨"a", "b", .a, "y/33"⟩, ⟨"a", "b", .invalidNetwork, "192.0.2.2/33"⟩]
         addresses := [], networks := [], explanation := none, issues := [] }]
    IsResult resolver {} records ∧ ∀ record ∈ records, record.Inventoried resolver := by
  intro resolver records
  have hresult : IsResult resolver {} records := by
    refine Or.inl ⟨"a", "v=spf1 a//64 include:b mx:m ip4:192.0.2.9 ip6:192.0.2.0/24 ~all",
      outcome_parseRecord_eq_ok.mpr
      ⟨"a", ⟨"spf1", .softFail, [⟨"v=spf1", .version "spf1"⟩,
        ⟨"a//64", .host .a none (.lengths none (some 64)) "//64"⟩, ⟨"include:b", .inclusion "b"⟩,
        ⟨"mx:m", .host .mx (some "m") .absent "m"⟩, ⟨"ip4:192.0.2.9", .literal .v4 "192.0.2.9"⟩,
        ⟨"ip6:192.0.2.0/24", .literal .v6 "192.0.2.0/24"⟩]⟩, rfl, by decide +kernel,
        by decide +kernel⟩⟩
  exact ⟨hresult, inventoried_of_isResult hresult⟩

end Expansion

end SenderPolicy
