import SenderPolicy.Proofs.Expansion.Inventory

/-!
# The entries of a record

The entries of a record recount its text: one for each clause in front of the first `all` that says
something, in the order of the text, with the value that the clause has.  The tag is that of the
clause, or says that the value could not be used.

* `Recounts`: the correspondence between the clauses and the entries.  The only entries that no
  clause is noted with stand behind a clause about hosts, one for each address that its mask does
  not fit.
* `faithful_of_isResult`: the entries of every record of a result recount its text, and they match
  the literals among its addresses and networks one for one.

Entries are written while the clauses are followed, and tagged anew once the literals are read.
`Retagged` is what that may do to an entry, and it leaves the entries for addresses that no mask
fits alone: their tag is an invalid one from the start.
-/

namespace SenderPolicy

open Statement

/-! ## What a clause is noted with -/

/-- The value denotes an address of the family. -/
def Address.Denoted (family : Family) (value : String) : Prop :=
  ∃ address, Address.read? (Text.trimBlanks value.toList) = some address ∧
    address.family = family

/-- The value denotes a canonical network of the family. -/
def Network.Denoted (family : Family) (value : String) : Prop :=
  ∃ base length, Network.parts? (Text.trimBlanks value.toList) = some (base, length) ∧
    Network.Canonical ⟨base, length⟩ ∧ base.family = family

namespace Term

/-- The tag of a term that can be used; a version, a verdict and a token that is nothing in
particular have none. -/
def tag? : Term → Option EntryTag
  | literal .v4 _ => some .ip4
  | literal .v6 _ => some .ip6
  | inclusion _ => some .inclusion
  | redirection _ => some .redirection
  | host kind _ _ _ => some kind.tag
  | existsTest _ => some .existsTest
  | pointer _ => some .pointer
  | explanation _ => some .explanation
  | version _ | all _ | unknown => none

/-- The value of a term, as it is written. -/
def value? : Term → Option String
  | literal _ value | host _ _ _ value | existsTest value | pointer value => some value
  | inclusion target | redirection target | explanation target => some target
  | version _ | all _ | unknown => none

/-- The term should give a network and does not: its value has a slash and denotes none of its
family, or its mask is malformed. -/
def LacksNetwork : Term → Prop
  | literal family value => '/' ∈ value.toList ∧ ¬Network.Denoted family value
  | host _ _ mask _ => mask = .malformed
  | _ => False

/-- The term should give an address and does not: its value has no slash and denotes none of its
family. -/
def LacksAddress : Term → Prop
  | literal family value => '/' ∉ value.toList ∧ ¬Address.Denoted family value
  | _ => False

end Term

/-- The clause is noted with the entry on the record. -/
structure PolicyEntry.Notes (record : PolicyRecord) (clause : Clause) (entry : PolicyEntry) :
    Prop where
  domain_eq : entry.domain = record.domain
  source_eq : entry.source = record.source
  value_eq : clause.term.value? = some entry.value
  tag_eq : clause.term.tag? = some entry.tag ∨ entry.tag = .invalidNetwork ∨
    entry.tag = .invalidAddress
  invalidNetwork_iff : entry.tag = .invalidNetwork ↔ clause.term.LacksNetwork
  invalidAddress_iff : entry.tag = .invalidAddress ↔ clause.term.LacksAddress

namespace PolicyRecord

/-- The entries of the record recount the clauses in order.  Behind the entry of a clause stand
those for the addresses that its mask does not fit. -/
inductive Recounts (resolver : Resolver) (record : PolicyRecord) :
    List Clause → List PolicyEntry → Prop where
  | nil : Recounts resolver record [] []
  | silent {clause : Clause} {clauses : List Clause} {entries : List PolicyEntry}
      (hsilent : clause.term = .unknown ∨ ∃ version, clause.term = .version version)
      (hrest : Recounts resolver record clauses entries) :
      Recounts resolver record (clause :: clauses) entries
  | noted {clause : Clause} {clauses : List Clause} {entry : PolicyEntry}
      {entries : List PolicyEntry} (hnotes : entry.Notes record clause)
      (hrest : Recounts resolver record clauses entries) :
      Recounts resolver record (clause :: clauses)
        (entry :: clause.misfits resolver record.domain record.source ++ entries)

/-- The entries of the record before its literals are read. -/
def collected (resolver : Resolver) (record : PolicyRecord) : List PolicyEntry :=
  record.clauses.flatMap fun clause =>
    (clause.stated? record.domain record.source).toList ++
      clause.misfits resolver record.domain record.source

end PolicyRecord

/-! ## Entries and literals -/

/-- The family of the literals with the tag. -/
def EntryTag.family? : EntryTag → Option Family
  | .ip4 => some .v4
  | .ip6 => some .v6
  | _ => none

namespace PolicyEntry

/-- The literal that an entry is tagged as. -/
def literal? (entry : PolicyEntry) : Option Term :=
  entry.tag.family?.map (Term.literal · entry.value)

/-- The address that an entry stands for. -/
def address? (entry : PolicyEntry) : Option Address := entry.literal?.bind Term.literalAddress?

/-- The network that an entry stands for. -/
def network? (entry : PolicyEntry) : Option Network := entry.literal?.bind Term.literalNetwork?

/-- Reading the literals makes the one entry of the other: a literal may come to be tagged as
invalid, and nothing else may change. -/
structure Retagged (before after : PolicyEntry) : Prop where
  domain_eq : after.domain = before.domain
  source_eq : after.source = before.source
  value_eq : after.value = before.value
  tag_eq : after.tag = before.tag ∨ before.tag.family?.isSome = true ∧ after.tag.isInvalid = true

/-- The entry stands for one thing. -/
def StandsForOne (entry : PolicyEntry) : Prop :=
  (∃ address, entry.address? = some address ∧ entry.network? = none) ∨
    ∃ network, entry.network? = some network ∧ entry.address? = none

end PolicyEntry

/-- The entries of the record recount its text, and those that are tagged as literals match the
literals among its addresses and networks. -/
structure PolicyRecord.Faithful (resolver : Resolver) (options : ResolveOptions)
    (record : PolicyRecord) : Prop where
  /-- Each clause that says something is noted, in the order of the text, and nothing else is. -/
  recounts : record.Recounts resolver record.clauses record.entries
  /-- Reading the literals drops no entry, moves none and changes no value. -/
  retagged : List.Forall₂ PolicyEntry.Retagged (record.collected resolver) record.entries
  /-- The addresses given literally are those of the entries, one for one. -/
  addresses_eq : record.addresses = (record.deliveries resolver).filterMap (·.place.address?) ++
    (record.entries.filterMap (·.address?)).map (⟨record.source, ·⟩)
  /-- The networks given literally are those of the entries, one for one. -/
  networks_eq : record.networks = (record.deliveries resolver).filterMap (·.place.network?) ++
    (record.entries.filterMap (·.network?)).map (⟨record.source, ·⟩)
  /-- An entry that is tagged as a literal is one address or one network. -/
  standsForOne : ∀ entry ∈ record.entries, entry.tag.family?.isSome = true → entry.StandsForOne
  /-- A malformed mask is not followed by a lookup. -/
  silent : ∀ clause ∈ record.clauses, clause.term.mask = .malformed →
    ∀ (expand : Site → String → Walk Findings) (site : Site) (visited : List String),
      ((Expansion.ofClause resolver options expand site clause).run visited).queries = []

/-! ## Reading the literals -/

theorem Address.denoted_iff {family : Family} {value : String} :
    Denoted family value ↔ ∃ a, Address.parse value = .ok a ∧ a.family = family := by
  rw [Denoted]
  refine exists_congr fun a => and_congr_left' ?_
  rw [Address.parse]
  cases read? (Text.trimBlanks value.toList) with
  | none => simp only [reduceCtorEq]
  | some b => rw [Option.some_inj, Except.ok.injEq]

theorem Network.denoted_iff {family : Family} {value : String} :
    Denoted family value ↔ ∃ n, Network.parse value = .ok n ∧ n.family = family := by
  constructor
  · rintro ⟨base, length, hparts, hcanonical, hfamily⟩
    exact ⟨⟨base, length⟩, parse_eq_ok_iff.mpr ⟨hparts, hcanonical⟩, hfamily⟩
  · rintro ⟨n, hparse, hfamily⟩
    obtain ⟨hparts, hcanonical⟩ := parse_eq_ok_iff.mp hparse
    exact ⟨n.base, n.prefixLength, hparts, hcanonical, hfamily⟩

/-- A literal that can be used has the tag of its family, and any other an invalid one. -/
theorem Literal.tag_eq_invalidNetwork_iff {family : Family} {literal : Literal} :
    literal.tag family = .invalidNetwork ↔ literal = invalidNetwork := by
  cases literal <;> cases family <;> simp [tag]

theorem Literal.tag_eq_invalidAddress_iff {family : Family} {literal : Literal} :
    literal.tag family = .invalidAddress ↔ literal = invalidAddress := by
  cases literal <;> cases family <;> simp [tag]

namespace Term

/-- Only a literal gives an address. -/
theorem literalAddress?_eq_none {term : Term} (h : term.tag?.bind EntryTag.family? = none) :
    term.literalAddress? = none := by
  cases term with
  | literal family value => cases family <;> cases h
  | _ => rfl

/-- Only a literal gives a network. -/
theorem literalNetwork?_eq_none {term : Term} (h : term.tag?.bind EntryTag.family? = none) :
    term.literalNetwork? = none := by
  cases term with
  | literal family value => cases family <;> cases h
  | _ => rfl

end Term

/-- Only the tag of a literal is settled by its value. -/
theorem EntryTag.settled_cases (tag : EntryTag) (value : String) :
    tag.family? = none ∧ tag.settled value = tag ∨
      ∃ family, tag.family? = some family ∧
        tag.settled value = (Literal.read family value).tag family := by
  cases tag with
  | ip4 => exact Or.inr ⟨.v4, rfl, rfl⟩
  | ip6 => exact Or.inr ⟨.v6, rfl, rfl⟩
  | _ => exact Or.inl ⟨rfl, rfl⟩

namespace PolicyEntry

/-- An entry stands for the address that its literal gives. -/
theorem address?_of_read (domain source : String) (family : Family) (value : String) :
    address? ⟨domain, source, (Literal.read family value).tag family, value⟩ =
      (Term.literal family value).literalAddress? := by
  rw [← Literal.address?_read, address?, literal?]
  cases hread : Literal.read family value with
  | invalidAddress | invalidNetwork => rfl
  | _ => cases family <;> exact (Literal.address?_read _ _).symm.trans (congrArg _ hread)

/-- An entry stands for the network that its literal gives. -/
theorem network?_of_read (domain source : String) (family : Family) (value : String) :
    network? ⟨domain, source, (Literal.read family value).tag family, value⟩ =
      (Term.literal family value).literalNetwork? := by
  rw [← Literal.network?_read, network?, literal?]
  cases hread : Literal.read family value with
  | invalidAddress | invalidNetwork => rfl
  | _ => cases family <;> exact (Literal.network?_read _ _).symm.trans (congrArg _ hread)

theorem retagged_settled (entry : PolicyEntry) : entry.Retagged entry.settled := by
  refine ⟨rfl, rfl, rfl, ?_⟩
  obtain ⟨domain, source, tag, value⟩ := entry
  rcases tag.settled_cases value with ⟨-, hsettled⟩ | ⟨family, hfamily, hsettled⟩
  · exact Or.inl hsettled
  · rw [settled, hsettled]
    cases tag with
    | ip4 | ip6 =>
      cases hfamily
      cases Literal.read _ value with
      | address | network => exact Or.inl rfl
      | _ => exact Or.inr ⟨rfl, rfl⟩
    | _ => cases hfamily

/-- An entry that keeps the tag of a literal is one address or one network. -/
theorem standsForOne_settled (entry : PolicyEntry)
    (h : entry.settled.tag.family?.isSome = true) : entry.settled.StandsForOne := by
  obtain ⟨domain, source, tag, value⟩ := entry
  rcases tag.settled_cases value with ⟨hfamily, hsettled⟩ | ⟨family, -, hsettled⟩
  · dsimp only [settled] at h
    rw [hsettled, hfamily] at h
    cases h
  · dsimp only [settled] at h ⊢
    rw [hsettled] at h ⊢
    rw [StandsForOne, address?_of_read, network?_of_read, ← Literal.address?_read,
      ← Literal.network?_read]
    cases hread : Literal.read family value with
    | address a => exact Or.inl ⟨a, rfl, rfl⟩
    | network n => exact Or.inr ⟨n, rfl, rfl⟩
    | _ =>
      rw [hread] at h
      cases h

end PolicyEntry

/-! ## The entries of a clause -/

section

variable {resolver : Resolver} {domain source : String}

theorem PolicyEntry.tag_of_mem_misfits {clause : Clause} {entry : PolicyEntry}
    (h : entry ∈ clause.misfits resolver domain source) : entry.tag = .invalidNetwork := by
  obtain ⟨delivery, -, hentry⟩ := List.mem_filterMap.mp h
  obtain ⟨value, -, rfl⟩ := Option.map_eq_some_iff.mp hentry
  rfl

/-- Reading the literals leaves the entries alone that no clause is noted with. -/
theorem map_settled_misfits (clause : Clause) :
    (clause.misfits resolver domain source).map PolicyEntry.settled =
      clause.misfits resolver domain source := by
  rw [Clause.misfits, List.map_filterMap]
  simp only [Option.map_map]
  rfl

/-- What can be read off literals only can be read off the entries as well as off the clauses. -/
theorem filterMap_entries {γ : Type} {get : PolicyEntry → Option γ} {read : Term → Option γ}
    (hget : ∀ entry, entry.tag.family? = none → get entry = none)
    (hread : ∀ term, term.tag?.bind EntryTag.family? = none → read term = none)
    (hliteral : ∀ domain source family value,
      get ⟨domain, source, (Literal.read family value).tag family, value⟩ =
        read (.literal family value)) (clause : Clause) :
    (((clause.stated? domain source).map PolicyEntry.settled).toList ++
        clause.misfits resolver domain source).filterMap get = (read clause.term).toList := by
  have hmisfits : (clause.misfits resolver domain source).filterMap get = [] :=
    List.filterMap_eq_nil_iff.mpr fun entry hentry =>
      hget entry (congrArg EntryTag.family? (PolicyEntry.tag_of_mem_misfits hentry))
  have hstated : ((clause.stated? domain source).map PolicyEntry.settled).bind get =
      read clause.term := by
    obtain ⟨token, term⟩ := clause
    cases term with
    | literal family value =>
      rw [← hliteral domain source]
      cases family <;> rfl
    | host kind target mask value =>
      cases kind <;> rw [hread _ rfl] <;> cases mask <;> exact hget _ rfl
    | version | all | unknown => exact (hread _ rfl).symm
    | _ => exact (hget _ rfl).trans (hread _ rfl).symm
  rw [List.filterMap_append, hmisfits, List.append_nil, ← hstated]
  cases (clause.stated? domain source).map PolicyEntry.settled with
  | none => rfl
  | some entry => cases hentry : get entry <;> simp [hentry]

/-- A clause that can be used is noted with its own tag. -/
theorem PolicyEntry.Notes.of_usable {record : PolicyRecord} {clause : Clause} {tag : EntryTag}
    {value : String} (hvalue : clause.term.value? = some value)
    (htag : clause.term.tag? = some tag) (hvalid : tag.isInvalid = false)
    (hnetwork : ¬clause.term.LacksNetwork) (haddress : ¬clause.term.LacksAddress) :
    PolicyEntry.Notes record clause ⟨record.domain, record.source, tag, value⟩ := by
  refine ⟨rfl, rfl, hvalue, Or.inl htag, iff_of_false ?_ hnetwork, iff_of_false ?_ haddress⟩
  · rintro rfl
    cases hvalid
  · rintro rfl
    cases hvalid

/-- A literal is noted with the tag that its value calls for. -/
theorem notes_literal (record : PolicyRecord) (token value : String) (family : Family) :
    PolicyEntry.Notes record ⟨token, .literal family value⟩
      ⟨record.domain, record.source, (Literal.read family value).tag family, value⟩ where
  domain_eq := rfl
  source_eq := rfl
  value_eq := rfl
  tag_eq := by
    cases Literal.read family value with
    | address | network => cases family <;> exact Or.inl rfl
    | invalidNetwork => exact Or.inr (Or.inl rfl)
    | invalidAddress => exact Or.inr (Or.inr rfl)
  invalidNetwork_iff := by
    rw [Literal.tag_eq_invalidNetwork_iff, Literal.read_eq_invalidNetwork_iff,
      ← Network.denoted_iff]
    rfl
  invalidAddress_iff := by
    rw [Literal.tag_eq_invalidAddress_iff, Literal.read_eq_invalidAddress_iff,
      ← Address.denoted_iff]
    rfl

/-- A clause is noted with the one entry that it has once the literals are read. -/
theorem notes_settled {record : PolicyRecord} {clause : Clause} {entry : PolicyEntry}
    (h : clause.stated? record.domain record.source = some entry) :
    entry.settled.Notes record clause := by
  obtain ⟨token, term⟩ := clause
  cases term with
  | literal family value =>
    cases family <;> cases h <;> exact notes_literal ..
  | host kind target mask value =>
    by_cases hmask : mask = .malformed
    · subst hmask
      cases h
      refine ⟨rfl, rfl, rfl, Or.inr (Or.inl rfl), iff_of_true rfl rfl, iff_of_false ?_ not_false⟩
      exact fun htag => by cases htag
    · rw [Clause.stated?, Term.stated?_host hmask] at h
      cases kind <;> cases h <;> exact .of_usable rfl rfl rfl hmask not_false
  | version | all | unknown => cases h
  | _ =>
    cases h
    exact .of_usable rfl rfl rfl not_false not_false

/-- The entries of a row of clauses recount it. -/
theorem recounts_flatMap (record : PolicyRecord) {clauses : List Clause}
    (h : ∀ clause ∈ clauses, clause.term.isAll = false) :
    record.Recounts resolver clauses (clauses.flatMap fun clause =>
      ((clause.stated? record.domain record.source).map PolicyEntry.settled).toList ++
        clause.misfits resolver record.domain record.source) := by
  induction clauses with
  | nil => exact .nil
  | cons clause clauses ih =>
    obtain ⟨hclause, hclauses⟩ := List.forall_mem_cons.mp h
    rw [List.flatMap_cons]
    cases hstated : clause.stated? record.domain record.source with
    | some entry => exact .noted (notes_settled hstated) (ih hclauses)
    | none =>
      obtain ⟨token, term⟩ := clause
      cases term with
      | version value => exact .silent (Or.inr ⟨value, rfl⟩) (ih hclauses)
      | unknown => exact .silent (Or.inl rfl) (ih hclauses)
      | all => cases hclause
      | host kind target mask value => cases mask <;> cases hstated
      | literal family value => cases family <;> cases hstated
      | _ => cases hstated

end

/-! ## The entries of a record -/

namespace Expansion

variable {resolver : Resolver} {options : ResolveOptions}

/-- A clause with a malformed mask asks nothing. -/
theorem queries_ofClause_of_malformed {clause : Clause} (h : clause.term.mask = .malformed)
    (expand : Site → String → Walk Findings) (site : Site) (visited : List String) :
    ((ofClause resolver options expand site clause).run visited).queries = [] := by
  obtain ⟨token, term⟩ := clause
  cases term with
  | host kind target mask value =>
    obtain rfl : mask = .malformed := h
    cases kind <;> rfl
  | _ => cases h

/-- The entries of the record are those collected, with the literals read. -/
theorem entries_eq_map_settled {record : PolicyRecord} (h : record.Inventoried resolver) :
    record.entries = (record.collected resolver).map PolicyEntry.settled := by
  rw [h.entries_eq, PolicyRecord.collected, List.map_flatMap]
  simp only [List.map_append, map_settled_misfits, Option.toList_map]

/-- What can be read off literals can be read off the entries of the record. -/
theorem filterMap_entries_record {γ : Type} {record : PolicyRecord}
    (h : record.Inventoried resolver) {get : PolicyEntry → Option γ} {read : Term → Option γ}
    (hget : ∀ entry, entry.tag.family? = none → get entry = none)
    (hread : ∀ term, term.tag?.bind EntryTag.family? = none → read term = none)
    (hliteral : ∀ domain source family value,
      get ⟨domain, source, (Literal.read family value).tag family, value⟩ =
        read (.literal family value)) :
    record.entries.filterMap get = record.clauses.filterMap (read ·.term) := by
  rw [h.entries_eq, List.filterMap_flatMap, List.filterMap_eq_flatMap_toList]
  simp only [filterMap_entries hget hread hliteral]

theorem faithful_of_isResult {records : List PolicyRecord}
    (h : IsResult resolver options records) :
    ∀ record ∈ records, record.Faithful resolver options := by
  intro record hrecord
  have hinventoried := inventoried_of_isResult h record hrecord
  have hentries := entries_eq_map_settled hinventoried
  have hnone : ∀ {γ : Type} (read : Term → Option γ) (entry : PolicyEntry),
      entry.tag.family? = none → entry.literal?.bind read = none := by
    intro γ read entry hfamily
    rw [PolicyEntry.literal?, hfamily]
    rfl
  have haddresses : record.entries.filterMap (·.address?) =
      record.clauses.filterMap (·.term.literalAddress?) :=
    filterMap_entries_record hinventoried (hnone _) (fun _ => Term.literalAddress?_eq_none)
      PolicyEntry.address?_of_read
  have hnetworks : record.entries.filterMap (·.network?) =
      record.clauses.filterMap (·.term.literalNetwork?) :=
    filterMap_entries_record hinventoried (hnone _) (fun _ => Term.literalNetwork?_eq_none)
      PolicyEntry.network?_of_read
  refine ⟨?_, ?_, ?_, ?_, ?_, fun clause _ => queries_ofClause_of_malformed⟩
  · rw [hinventoried.entries_eq]
    exact recounts_flatMap record fun clause => isAll_of_mem_active
  · rw [hentries, List.forall₂_map_right_iff, List.forall₂_same]
    exact fun entry _ => entry.retagged_settled
  · rw [haddresses]
    exact hinventoried.addresses_eq
  · rw [hnetworks]
    exact hinventoried.networks_eq
  · rw [hentries]
    intro entry hentry hfamily
    obtain ⟨before, -, rfl⟩ := List.mem_map.mp hentry
    exact before.standsForOne_settled hfamily

/-- Literals that can be used and literals that cannot, one of them of the wrong family, a prefix
that is too long for an address, a malformed mask, and a token that is nothing in particular. -/
theorem faithful_of_zone :
    let resolver := Zone.resolver [⟨"a", .a, .ok [.address (.ofNat .v4 0xC0000201)]⟩]
    let raw := "v=spf1 ip4:192.0.2.0/24 ip6:192.0.2.1 ip4:192.0.2.1/24 a/33 foo mx/z -all ptr"
    let records : List PolicyRecord :=
      [{ domain := "a", source := "a", raw, version := "spf1", depth := 0, action := .fail
         entries := [⟨"a", "a", .ip4, "192.0.2.0/24"⟩, ⟨"a", "a", .invalidAddress, "192.0.2.1"⟩,
           ⟨"a", "a", .invalidNetwork, "192.0.2.1/24"⟩, ⟨"a", "a", .a, "/33"⟩,
           ⟨"a", "a", .invalidNetwork, "192.0.2.1/33"⟩, ⟨"a", "a", .invalidNetwork, "/z"⟩]
         addresses := [], networks := [⟨"a", .ofNat .v4 0xC0000200, 24⟩], explanation := none
         issues := [] }]
    IsResult resolver {} records ∧ ∀ record ∈ records, record.Faithful resolver {} := by
  intro resolver raw records
  have hresult : IsResult resolver {} records := by
    refine Or.inl ⟨"a", raw, outcome_parseRecord_eq_ok.mpr
      ⟨"a", ⟨"spf1", .fail, [⟨"v=spf1", .version "spf1"⟩,
        ⟨"ip4:192.0.2.0/24", .literal .v4 "192.0.2.0/24"⟩,
        ⟨"ip6:192.0.2.1", .literal .v6 "192.0.2.1"⟩,
        ⟨"ip4:192.0.2.1/24", .literal .v4 "192.0.2.1/24"⟩,
        ⟨"a/33", .host .a none (.lengths (some 33) (some 33)) "/33"⟩, ⟨"foo", .unknown⟩,
        ⟨"mx/z", .host .mx none .malformed "/z"⟩]⟩, rfl, by decide +kernel,
        by decide +kernel⟩⟩
  exact ⟨hresult, faithful_of_isResult hresult⟩

end Expansion

end SenderPolicy
