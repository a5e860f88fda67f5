import Mathlib
import SenderPolicy.Dns.Zone
import SenderPolicy.Proofs.Expansion.Records
import SenderPolicy.Proofs.Net.Prefix
import SenderPolicy.Proofs.Net.Spelling

/-!
# What a record authorises

A record authorises an address if one of the clauses in front of the first `all` does, and nothing
else does: `contains_iff_authorises`.

`Term.Authorises` says what a clause authorises without the lists in which a record collects it: it
speaks of what is written, of the answers of the resolver, and of the bits of addresses.  On the way
there `Findings.Holds` is membership in either list, which goes through rows of findings, through
lookups and through the answers of a lookup, so that each function of the expansion has one lemma.
-/

namespace SenderPolicy

/-! ## What is meant -/

/-- A mask widens an address of a host to the addresses that agree with it on the prefix, if it
gives one that fits; without a prefix the address stands for itself. -/
def HostMask.Widens (mask : HostMask) (answer ip : Address) : Prop :=
  match mask.lengthFor answer.family with
  | none => answer = ip
  | some length => length ≤ answer.family.width ∧ answer.AgreeOn length ip

/-- One of the addresses of the host is widened to the address. -/
def Resolver.Provides (resolver : Resolver) (mask : HostMask) (ip : Address) (host : String) :
    Prop :=
  ∃ answers, (resolver.addresses host).outcome = .ok answers ∧
    ∃ answer ∈ answers, mask.Widens answer ip

/-- What a term authorises in a text that is published under `source`. -/
def Term.Authorises (resolver : Resolver) (source : String) (ip : Address) : Term → Prop
  | .literal family value =>
    (Address.parse value = .ok ip ∧ ip.family = family) ∨
      ∃ network, Network.parse value = .ok network ∧ network.family = family ∧
        Address.AgreeOn network.prefixLength network.base ip
  | .host .a target mask _ =>
    mask ≠ .malformed ∧ resolver.Provides mask ip (target.getD source)
  | .host .mx target mask _ =>
    mask ≠ .malformed ∧ ∃ hosts, (resolver.mailHosts (target.getD source)).outcome = .ok hosts ∧
      ∃ host ∈ hosts, resolver.Provides mask ip host
  | _ => False

/-! ## What is found -/

/-- The address is one of those found, or lies in one of the networks found. -/
def Findings.Holds (f : Findings) (ip : Address) : Prop :=
  (∃ known ∈ f.addresses, known.address = ip) ∨
    ∃ known ∈ f.networks, known.network.contains ip = true

namespace Findings

theorem not_holds_empty (ip : Address) : ¬empty.Holds ip := by
  rintro (⟨known, hknown, -⟩ | ⟨known, hknown, -⟩) <;> cases hknown

theorem holds_append {f g : Findings} {ip : Address} :
    (f ++ g).Holds ip ↔ f.Holds ip ∨ g.Holds ip := by
  simp only [Holds, append_def, append, List.mem_append, or_and_right, exists_or]
  exact or_or_or_comm

theorem holds_join_map {α : Type} {find : α → Findings} {as : List α} {ip : Address} :
    (join (as.map find)).Holds ip ↔ ∃ a ∈ as, (find a).Holds ip := by
  induction as with
  | nil => simp only [List.map_nil, join_nil, not_holds_empty, List.not_mem_nil, false_and,
      exists_false]
  | cons a as ih =>
    simp only [List.map_cons, join_cons, holds_append, ih, List.mem_cons, or_and_right,
      exists_or, exists_eq_left]

end Findings

namespace Expansion

variable {resolver : Resolver} {options : ResolveOptions}

theorem not_holds_entry {site : Site} {tag : EntryTag} {value : String} {ip : Address} :
    ¬(entry site tag value).Holds ip := by
  rintro (⟨known, hknown, -⟩ | ⟨known, hknown, -⟩) <;> cases hknown

/-- An address of a host brings what the mask widens it to.  A mask that is too long for it brings
nothing. -/
theorem holds_ofAddress {site : Site} {origin : String} {mask : HostMask} {answer ip : Address} :
    (ofAddress site origin mask answer).Holds ip ↔ mask.Widens answer ip := by
  rw [ofAddress, HostMask.Widens]
  cases mask.lengthFor answer.family with
  | none =>
    constructor
    · rintro (⟨known, hknown, heq⟩ | ⟨known, hknown, -⟩)
      · rw [List.mem_singleton.mp hknown] at heq
        exact heq
      · cases hknown
    · exact fun heq => Or.inl ⟨_, List.mem_singleton_self _, heq⟩
  | some length =>
    dsimp only
    by_cases hlength : length ≤ answer.family.width
    · have hmask := Network.mask_forced hlength
      rw [← Network.contains_iff_of_mask_eq_ok hmask, hmask]
      constructor
      · rintro (⟨known, hknown, -⟩ | ⟨known, hknown, hcontains⟩)
        · cases hknown
        · rw [List.mem_singleton.mp hknown] at hcontains
          exact ⟨hlength, hcontains⟩
      · exact fun h => Or.inr ⟨_, List.mem_singleton_self _, h.2⟩
    · rw [Network.mask_of_width_lt true (Nat.lt_of_not_le hlength)]
      constructor
      · exact fun h => absurd h not_holds_entry
      · exact fun h => absurd h.1 hlength

/-- A failed lookup brings nothing. -/
theorem holds_noting {α : Type} {target : String} {outcome : Except LookupError α}
    {use : α → Findings} {ip : Address} :
    (noting target outcome use).Holds ip ↔ ∃ a, outcome = .ok a ∧ (use a).Holds ip := by
  cases outcome with
  | ok a =>
    constructor
    · exact fun h => ⟨a, rfl, h⟩
    · rintro ⟨b, hb, h⟩
      cases hb
      exact h
  | error failure =>
    constructor
    · exact fun h => absurd h (Findings.not_holds_empty ip)
    · rintro ⟨b, hb, -⟩
      cases hb

theorem holds_ownOfHost {site : Site} {token : String} {mask : HostMask} {host : String}
    {ip : Address} :
    (ownOfHost resolver site token mask host).Holds ip ↔ resolver.Provides mask ip host := by
  rw [ownOfHost, holds_noting, Resolver.Provides]
  simp only [Findings.holds_join_map, holds_ofAddress]

theorem holds_ownOfMailHosts {site : Site} {token : String} {mask : HostMask} {domain : String}
    {ip : Address} :
    (ownOfMailHosts resolver site token mask domain).Holds ip ↔
      ∃ hosts, (resolver.mailHosts domain).outcome = .ok hosts ∧
        ∃ host ∈ hosts, resolver.Provides mask ip host := by
  rw [ownOfMailHosts, holds_noting]
  simp only [Findings.holds_join_map, holds_ownOfHost]

theorem not_holds_ownOfExplanation {target : String} {ip : Address} :
    ¬(ownOfExplanation resolver options target).Holds ip := by
  rw [ownOfExplanation]
  split
  · rw [holds_noting]
    rintro ⟨texts, -, hholds⟩
    exact Findings.not_holds_empty ip hholds
  · exact Findings.not_holds_empty ip

/-! ## What is written -/

/-- What a clause gives literally. -/
def GivesLiterally (clause : Clause) (ip : Address) : Prop :=
  ∃ literal, Literal.ofClause? clause = some literal ∧
    (literal.address? = some ip ∨
      ∃ network, literal.network? = some network ∧ network.contains ip = true)

theorem givesLiterally_literal_iff {token : String} {family : Family} {value : String}
    {ip : Address} :
    GivesLiterally ⟨token, .literal family value⟩ ip ↔
      (Address.parse value = .ok ip ∧ ip.family = family) ∨
        ∃ network, Network.parse value = .ok network ∧ network.family = family ∧
          Address.AgreeOn network.prefixLength network.base ip := by
  have hnetwork : ∀ network, (Network.parse value = .ok network ∧ network.family = family) ∧
        network.contains ip = true ↔
      Network.parse value = .ok network ∧ network.family = family ∧
        Address.AgreeOn network.prefixLength network.base ip := by
    intro network
    rw [and_assoc]
    refine and_congr_right fun hparse => and_congr_right fun _ => ?_
    exact Network.contains_iff_agreeOn (Network.canonical_of_parse_eq_ok hparse)
  simp only [GivesLiterally, Literal.ofClause?, Option.some.injEq, exists_eq_left',
    Literal.address?_read_eq_some_iff, Literal.network?_read_eq_some_iff, hnetwork]

theorem not_givesLiterally {clause : Clause} {ip : Address}
    (h : Literal.ofClause? clause = none) : ¬GivesLiterally clause ip := by
  rintro ⟨literal, hliteral, -⟩
  rw [h] at hliteral
  cases hliteral

/-- A clause authorises what it brings and what it gives literally. -/
theorem holds_own_or_givesLiterally_iff {site : Site} {clause : Clause} {ip : Address} :
    (own resolver options site clause).Holds ip ∨ GivesLiterally clause ip ↔
      clause.term.Authorises resolver site.source ip := by
  obtain ⟨token, term⟩ := clause
  cases term with
  | literal family value =>
    have hown : ¬(own resolver options site ⟨token, .literal family value⟩).Holds ip :=
      not_holds_entry
    rw [or_iff_right hown, givesLiterally_literal_iff]
    rfl
  | host kind target mask value =>
    rw [or_iff_left (not_givesLiterally rfl)]
    by_cases hmask : mask = .malformed
    · subst hmask
      cases kind
      all_goals
        constructor
        · exact fun h => absurd h not_holds_entry
        · exact fun h => absurd rfl h.1
    · cases kind with
      | a =>
        rw [own_a hmask, Findings.holds_append, or_iff_right not_holds_entry, holds_ownOfHost]
        exact (and_iff_right hmask).symm
      | mx =>
        rw [own_mx hmask, Findings.holds_append, or_iff_right not_holds_entry,
          holds_ownOfMailHosts]
        exact (and_iff_right hmask).symm
  | explanation target =>
    rw [or_iff_left (not_givesLiterally rfl), own, Findings.holds_append]
    refine iff_of_false ?_ id
    exact not_or.mpr ⟨not_holds_entry, not_holds_ownOfExplanation⟩
  | version _ | all _ | unknown =>
    rw [or_iff_left (not_givesLiterally rfl)]
    exact iff_of_false (Findings.not_holds_empty ip) id
  | inclusion _ | redirection _ | existsTest _ | pointer _ =>
    rw [or_iff_left (not_givesLiterally rfl)]
    exact iff_of_false not_holds_entry id

/-- What clauses give literally, as it is put behind what they bring. -/
def literally (source : String) (row : List Clause) : Findings where
  addresses := ((row.filterMap Literal.ofClause?).filterMap Literal.address?).map (⟨source, ·⟩)
  networks := ((row.filterMap Literal.ofClause?).filterMap Literal.network?).map (⟨source, ·⟩)

theorem holds_literally_iff {source : String} {row : List Clause} {ip : Address} :
    (literally source row).Holds ip ↔ ∃ clause ∈ row, GivesLiterally clause ip := by
  constructor
  · rintro (⟨known, hknown, rfl⟩ | ⟨known, hknown, hcontains⟩)
    · obtain ⟨address, haddress, rfl⟩ := List.mem_map.mp hknown
      obtain ⟨literal, hmem, haddress⟩ := List.mem_filterMap.mp haddress
      obtain ⟨clause, hclause, hliteral⟩ := List.mem_filterMap.mp hmem
      exact ⟨clause, hclause, literal, hliteral, Or.inl haddress⟩
    · obtain ⟨network, hnetwork, rfl⟩ := List.mem_map.mp hknown
      obtain ⟨literal, hmem, hnetwork⟩ := List.mem_filterMap.mp hnetwork
      obtain ⟨clause, hclause, hliteral⟩ := List.mem_filterMap.mp hmem
      exact ⟨clause, hclause, literal, hliteral, Or.inr ⟨network, hnetwork, hcontains⟩⟩
  · rintro ⟨clause, hclause, literal, hliteral, hgives⟩
    have hmem : literal ∈ row.filterMap Literal.ofClause? :=
      List.mem_filterMap.mpr ⟨clause, hclause, hliteral⟩
    rcases hgives with haddress | ⟨network, hnetwork, hcontains⟩
    · exact Or.inl ⟨_, List.mem_map_of_mem (List.mem_filterMap.mpr ⟨literal, hmem, haddress⟩), rfl⟩
    · exact Or.inr ⟨_, List.mem_map_of_mem (List.mem_filterMap.mpr ⟨literal, hmem, hnetwork⟩),
        hcontains⟩

/-- A record holds what its clauses bring and what they give literally. -/
theorem contains_recordOf_iff {site : Site} {raw : String} {statement : Statement}
    {outcomes : List (Option Outcome)} {ip : Address} :
    (recordOf resolver options site raw statement outcomes).contains ip = true ↔
      ∃ clause ∈ statement.clauses,
        (own resolver options site clause).Holds ip ∨ GivesLiterally clause ip := by
  have hrow : (Findings.join (statement.clauses.map (own resolver options site)) ++
      literally site.source statement.clauses).Holds ip ↔ _ := Findings.holds_append
  rw [Findings.holds_join_map, holds_literally_iff] at hrow
  rw [PolicyRecord.contains_iff]
  simp only [and_or_left, exists_or]
  exact hrow

/-- The authorised set of a record.  Of every result, a record holds an address if a clause of its
text in front of the first `all` authorises it. -/
theorem contains_iff_authorises {records : List PolicyRecord}
    (h : IsResult resolver options records) {record : PolicyRecord} (hrecord : record ∈ records)
    (ip : Address) :
    record.contains ip = true ↔
      ∃ clause ∈ Statement.active (Statement.allClauses record.raw),
        clause.term.Authorises resolver record.source ip := by
  obtain ⟨statement, outcomes, hraw, heq⟩ := exists_recordOf_of_isResult h hrecord
  rw [← Statement.clauses_of_parse_eq_ok hraw, heq, contains_recordOf_iff]
  exact exists_congr fun clause => and_congr_right fun _ => holds_own_or_givesLiterally_iff

/-- A literal and a widened answer, and an address that only the second one covers. -/
theorem contains_iff_authorises_of_zone :
    let resolver := Zone.resolver [⟨"a", .a, .ok [.address (.ofNat .v4 0xC0000207)]⟩]
    let record : PolicyRecord :=
      { domain := "a", source := "a", raw := "v=spf1 a/24 ip4:192.0.2.1 -all", version := "spf1",
        depth := 0, action := .fail,
        entries := [⟨"a", "a", .a, "/24"⟩, ⟨"a", "a", .ip4, "192.0.2.1"⟩],
        addresses := [⟨"a", .ofNat .v4 0xC0000201⟩],
        networks := [⟨"a a/24", ⟨.ofNat .v4 0xC0000200, 24⟩⟩], explanation := none, issues := [] }
    IsResult resolver {} [record] ∧
      (record.contains (.ofNat .v4 0xC00002FF) = true ↔
        ∃ clause ∈ Statement.active (Statement.allClauses record.raw),
          clause.term.Authorises resolver record.source (.ofNat .v4 0xC00002FF)) := by
  intro resolver record
  have hresult : IsResult resolver {} [record] := by
    refine Or.inl ⟨"a", "v=spf1 a/24 ip4:192.0.2.1 -all", outcome_parseRecord_eq_ok.mpr
      ⟨"a", ⟨"spf1", .fail, [⟨"v=spf1", .version "spf1"⟩,
        ⟨"a/24", .host .a none (.lengths (some 24) (some 24)) "/24"⟩,
        ⟨"ip4:192.0.2.1", .literal .v4 "192.0.2.1"⟩]⟩, rfl, by decide +kernel, by decide +kernel⟩⟩
  exact ⟨hresult, contains_iff_authorises hresult (List.mem_singleton_self _) _⟩

end Expansion

end SenderPolicy
