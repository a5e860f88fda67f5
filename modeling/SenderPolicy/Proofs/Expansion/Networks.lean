import SenderPolicy.Proofs.Expansion.Records
import SenderPolicy.Proofs.Net.Made
import SenderPolicy.Proofs.Net.Spelling

/-!
# Where the networks of a record come from

A network comes to a record in one of two ways.  A mask makes it of an address that a lookup
brought, and clears the bits past the prefix; or the text gives it literally, and then it has been
refused unless those bits are clear.

* `exists_derives_of_mem_networks`: each network on a record of a result comes from the answer of a
  lookup or from a literal, so it is made of an address (`Network.MadeFrom`).
* `invalidNetwork_mem_entries`: an answer that a mask is too long for is noted, and nothing else
  happens.

Networks and entries go through rows of findings and through the answers of lookups in the same
manner, so what they have in common is said once, of anything that can be asked of findings piece by
piece (`Findings.Additive`).
-/

namespace SenderPolicy

open Statement

/-! ## The hosts of a clause -/

/-- The clause, in a text published under `source`, stands for the host and applies the mask to its
addresses. -/
inductive Clause.StandsFor (resolver : Resolver) (source : String) (clause : Clause)
    (mask : HostMask) : String → Prop where
  | a {target : Option String} {value : String} (hterm : clause.term = .host .a target mask value)
      (hmask : mask ≠ .malformed) : StandsFor resolver source clause mask (target.getD source)
  | mx {target : Option String} {value host : String} {hosts : List String}
      (hterm : clause.term = .host .mx target mask value) (hmask : mask ≠ .malformed)
      (hhosts : (resolver.mailHosts (target.getD source)).outcome = .ok hosts)
      (hhost : host ∈ hosts) : StandsFor resolver source clause mask host

/-- The address is an answer for a host that the clause stands for. -/
structure Clause.Brings (resolver : Resolver) (source : String) (clause : Clause) (mask : HostMask)
    (host : String) (answer : Address) : Prop where
  standsFor : clause.StandsFor resolver source mask host
  answered : ∃ answers, (resolver.addresses host).outcome = .ok answers ∧ answer ∈ answers

/-! ## Asking piece by piece -/

/-- It holds of findings in a row if it holds of a part of them, and not of issues, explanations
and records. -/
structure Findings.Additive (holds : Findings → Prop) : Prop where
  append : ∀ f g, holds (f ++ g) ↔ holds f ∨ holds g
  bare : ∀ f, f.entries = [] → f.addresses = [] → f.networks = [] → ¬holds f

namespace Findings

theorem additive_entries (entry : PolicyEntry) : Additive (entry ∈ ·.entries) where
  append f g := List.mem_append
  bare f hentries _ _ := by
    rw [hentries]
    exact List.not_mem_nil

theorem additive_networks (known : KnownNetwork) : Additive (known ∈ ·.networks) where
  append f g := List.mem_append
  bare f _ _ hnetworks := by
    rw [hnetworks]
    exact List.not_mem_nil

variable {holds : Findings → Prop}

theorem Additive.join_map {α : Type} (h : Additive holds) {find : α → Findings} {as : List α} :
    holds (join (as.map find)) ↔ ∃ a ∈ as, holds (find a) := by
  induction as with
  | nil =>
    have hempty : ¬holds empty := h.bare empty rfl rfl rfl
    simp only [List.map_nil, join_nil, hempty, List.not_mem_nil, false_and, exists_false]
  | cons a as ih =>
    rw [List.map_cons, join_cons, h.append, ih]
    simp only [List.mem_cons, exists_eq_or_imp]

end Findings

namespace Expansion

variable {resolver : Resolver} {options : ResolveOptions} {holds : Findings → Prop}

/-- A failed lookup brings nothing. -/
theorem holds_noting_iff {α : Type} (h : Findings.Additive holds) {target : String}
    {outcome : Except LookupError α} {use : α → Findings} :
    holds (noting target outcome use) ↔ ∃ a, outcome = .ok a ∧ holds (use a) := by
  cases outcome with
  | ok a =>
    constructor
    · exact fun hheld => ⟨a, rfl, hheld⟩
    · rintro ⟨_, hb, hheld⟩
      cases hb
      exact hheld
  | error failure =>
    constructor
    · exact fun hheld => absurd hheld (h.bare _ rfl rfl rfl)
    · rintro ⟨_, hb, -⟩
      cases hb

theorem holds_ownOfHost_iff (h : Findings.Additive holds) {site : Site} {token host : String}
    {mask : HostMask} :
    holds (ownOfHost resolver site token mask host) ↔
      ∃ answers, (resolver.addresses host).outcome = .ok answers ∧
        ∃ answer ∈ answers, holds (ofAddress site (host ++ " " ++ token) mask answer) := by
  simp only [ownOfHost, holds_noting_iff h, h.join_map]

theorem holds_ownOfMailHosts_iff (h : Findings.Additive holds) {site : Site}
    {token domain : String} {mask : HostMask} :
    holds (ownOfMailHosts resolver site token mask domain) ↔
      ∃ hosts, (resolver.mailHosts domain).outcome = .ok hosts ∧
        ∃ host ∈ hosts, holds (ownOfHost resolver site token mask host) := by
  simp only [ownOfMailHosts, holds_noting_iff h, h.join_map]

/-- What holds of an address of a host holds of the clause that stands for the host. -/
theorem holds_own_of_brings (h : Findings.Additive holds) {site : Site} {clause : Clause}
    {mask : HostMask} {host : String} {answer : Address}
    (hbrings : clause.Brings resolver site.source mask host answer)
    (hheld : holds (ofAddress site (host ++ " " ++ clause.token) mask answer)) :
    holds (own resolver options site clause) := by
  obtain ⟨hstands, answers, hanswers, hanswer⟩ := hbrings
  have hhost : holds (ownOfHost resolver site clause.token mask host) :=
    (holds_ownOfHost_iff h).mpr ⟨answers, hanswers, answer, hanswer, hheld⟩
  obtain ⟨token, term⟩ := clause
  cases hstands with
  | a hterm hmask =>
    dsimp only at hterm
    rw [hterm, own_a hmask, h.append]
    exact Or.inr hhost
  | mx hterm hmask hhosts hmem =>
    dsimp only at hterm
    rw [hterm, own_mx hmask, h.append, holds_ownOfMailHosts_iff h]
    exact Or.inr ⟨_, hhosts, _, hmem, hhost⟩

/-- What holds of no entry comes from an address of a host that the clause stands for. -/
theorem exists_brings_of_holds_own (h : Findings.Additive holds) {site : Site} {clause : Clause}
    (hentry : ∀ tag value, ¬holds (entry site tag value))
    (hheld : holds (own resolver options site clause)) :
    ∃ mask host answer, clause.Brings resolver site.source mask host answer ∧
      holds (ofAddress site (host ++ " " ++ clause.token) mask answer) := by
  have hempty : ¬holds .empty := h.bare _ rfl rfl rfl
  obtain ⟨token, term⟩ := clause
  cases term with
  | host kind target mask value =>
    by_cases hmask : mask = .malformed
    · subst hmask
      cases kind <;> exact absurd hheld (hentry _ _)
    · cases kind with
      | a =>
        rw [own_a hmask, h.append, or_iff_right (hentry _ _), holds_ownOfHost_iff h] at hheld
        obtain ⟨answers, hanswers, answer, hanswer, hheld⟩ := hheld
        exact ⟨mask, _, answer, ⟨.a rfl hmask, answers, hanswers, hanswer⟩, hheld⟩
      | mx =>
        rw [own_mx hmask, h.append, or_iff_right (hentry _ _), holds_ownOfMailHosts_iff h] at hheld
        obtain ⟨hosts, hhosts, host, hhost, hheld⟩ := hheld
        obtain ⟨answers, hanswers, answer, hanswer, hheld⟩ := (holds_ownOfHost_iff h).mp hheld
        exact ⟨mask, host, answer, ⟨.mx rfl hmask hhosts hhost, answers, hanswers, hanswer⟩, hheld⟩
  | explanation target =>
    refine absurd ((h.append _ _).mp hheld) (not_or.mpr ⟨hentry _ _, ?_⟩)
    rw [ownOfExplanation]
    split
    · rw [holds_noting_iff h]
      rintro ⟨texts, -, hexplanation⟩
      exact h.bare _ rfl rfl rfl hexplanation
    · exact hempty
  | version | all | unknown => exact absurd hheld hempty
  | _ => exact absurd hheld (hentry _ _)

end Expansion

/-! ## The networks of a record -/

/-- The network is on the record because of the address. -/
inductive PolicyRecord.Derives (resolver : Resolver) (record : PolicyRecord)
    (known : KnownNetwork) : Address → Prop where
  /-- The address is an answer for a host of a clause, and the mask of the clause is applied. -/
  | answered {clause : Clause} {mask : HostMask} {host : String} {answer : Address} {p : Nat}
      (hclause : clause ∈ active (allClauses record.raw))
      (hbrings : clause.Brings resolver record.source mask host answer)
      (hlength : mask.lengthFor answer.family = some p)
      (hmask : Network.mask answer p true = .ok known.network)
      (horigin : known.origin = host ++ " " ++ clause.token) : Derives resolver record known answer
  /-- The address is the address part of a literal that names its family. -/
  | literal {token value : String} {family : Family} {input : Address} {p : Nat}
      (hclause : ⟨token, .literal family value⟩ ∈ active (allClauses record.raw))
      (hparts : Network.parts? (Text.trimBlanks value.toList) = some (input, p))
      (hparse : Network.parse value = .ok known.network) (hfamily : known.network.family = family)
      (horigin : known.origin = record.source) : Derives resolver record known input

namespace Expansion

variable {resolver : Resolver} {options : ResolveOptions} {records : List PolicyRecord}
  {record : PolicyRecord}

/-- Each network on a record of a result comes from the answer of a lookup or from a literal. -/
theorem exists_derives_of_mem_networks (h : IsResult resolver options records)
    (hrecord : record ∈ records) {known : KnownNetwork} (hknown : known ∈ record.networks) :
    ∃ input, record.Derives resolver known input := by
  obtain ⟨statement, outcomes, hraw, heq⟩ := exists_recordOf_of_isResult h hrecord
  have hclauses := clauses_of_parse_eq_ok hraw
  rw [heq] at hknown
  rcases List.mem_append.mp hknown with hknown | hknown
  · have hadditive := Findings.additive_networks known
    obtain ⟨clause, hclause, hown⟩ := hadditive.join_map.mp hknown
    obtain ⟨mask, host, answer, hbrings, hheld⟩ :=
      exists_brings_of_holds_own hadditive (fun _ _ => List.not_mem_nil) hown
    rw [hclauses] at hclause
    rw [ofAddress] at hheld
    split at hheld
    · cases hheld
    · next p hlength =>
      split at hheld
      · next hmask =>
        obtain rfl := List.mem_singleton.mp hheld
        exact ⟨answer, .answered hclause hbrings hlength hmask rfl⟩
      · cases hheld
  · obtain ⟨network, hnetwork, rfl⟩ := List.mem_map.mp hknown
    obtain ⟨literal, hliteral, hnetwork⟩ := List.mem_filterMap.mp hnetwork
    obtain ⟨⟨token, term⟩, hclause, hgiven⟩ := List.mem_filterMap.mp hliteral
    rw [hclauses] at hclause
    cases term with
    | literal family value =>
      obtain rfl := Option.some.inj hgiven
      obtain ⟨hparse, hfamily⟩ := Literal.network?_read_eq_some_iff.mp hnetwork
      obtain ⟨input, p, hparts⟩ := Network.exists_parts?_of_parse_eq_ok hparse
      exact ⟨input, .literal hclause hparts hparse hfamily rfl⟩
    | _ => cases hgiven

theorem madeFrom_of_derives {known : KnownNetwork} {input : Address}
    (h : record.Derives resolver known input) : Network.MadeFrom input known.network := by
  cases h with
  | answered _ _ _ hmask => exact .mask hmask
  | literal _ hparts hparse => exact .literal hparts hparse

/-- A network on a record of a result is canonical. -/
theorem canonical_of_mem_networks (h : IsResult resolver options records)
    (hrecord : record ∈ records) {known : KnownNetwork} (hknown : known ∈ record.networks) :
    known.network.Canonical := by
  obtain ⟨input, hderives⟩ := exists_derives_of_mem_networks h hrecord hknown
  exact (madeFrom_of_derives hderives).sound.canonical

/-- An answer that the mask is too long for is noted as an invalid network. -/
theorem invalidNetwork_mem_entries (h : IsResult resolver options records)
    (hrecord : record ∈ records) {clause : Clause} {mask : HostMask} {host : String}
    {answer : Address} {p : Nat} (hclause : clause ∈ active (allClauses record.raw))
    (hbrings : clause.Brings resolver record.source mask host answer)
    (hlength : mask.lengthFor answer.family = some p) (hlong : answer.family.width < p) :
    ⟨record.domain, record.source, .invalidNetwork, Network.text ⟨answer, p⟩⟩ ∈
      record.entries := by
  obtain ⟨statement, outcomes, hraw, heq⟩ := exists_recordOf_of_isResult h hrecord
  rw [← clauses_of_parse_eq_ok hraw] at hclause
  have hadditive := Findings.additive_entries
    ⟨record.domain, record.source, .invalidNetwork, Network.text ⟨answer, p⟩⟩
  have hentries : record.entries = (Findings.join (statement.clauses.map
      (own resolver options ⟨record.domain, record.source, record.depth⟩))).entries :=
    congrArg PolicyRecord.entries heq
  rw [hentries]
  refine hadditive.join_map.mpr ⟨clause, hclause, holds_own_of_brings hadditive hbrings ?_⟩
  rw [ofAddress, hlength]
  dsimp only
  rw [Network.mask_of_width_lt true hlong]
  exact List.mem_singleton_self _

end Expansion

end SenderPolicy
