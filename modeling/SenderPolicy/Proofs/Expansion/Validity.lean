import SenderPolicy.Proofs.Expansion.Preorder
import SenderPolicy.Proofs.Net.Spelling

/-!
# What an invalid entry tells

An entry of a record is tagged as invalid for a clause that says something unusable: a literal that
is neither an address nor a network of its family, a mask that cannot be read, or a mask that is too
long for an address that it is applied to.  `Term.InOrder` says of a term that it is none of these,
in terms of what is written and of the answers of the resolver.

* `Visit.Reads.hasInvalidEntries_eq_false_iff`: a record has no invalid entry exactly if the terms
  in front of the first `all` of its text are in order.

Entries are collected like everything else, so each function of the expansion has one lemma, about
`Findings.Valid`.
-/

namespace SenderPolicy

/-! ## What is meant -/

/-- Where the mask gives a length for the address, it is one that the address has. -/
def HostMask.Fits (mask : HostMask) (address : Address) : Prop :=
  ∀ length, mask.lengthFor address.family = some length → length ≤ address.family.width

/-- The mask fits every address that the host is found to have. -/
def Resolver.Admits (resolver : Resolver) (mask : HostMask) (host : String) : Prop :=
  ∀ answers, (resolver.addresses host).outcome = .ok answers → ∀ answer ∈ answers, mask.Fits answer

/-- What the term says can be used, in a text that is published under `source`. -/
def Term.InOrder (resolver : Resolver) (source : String) : Term → Prop
  | .literal family value =>
    (∃ address, Address.parse value = .ok address ∧ address.family = family) ∨
      ∃ network, Network.parse value = .ok network ∧ network.Canonical ∧ network.family = family
  | .host .a target mask _ => mask ≠ .malformed ∧ resolver.Admits mask (target.getD source)
  | .host .mx target mask _ =>
    mask ≠ .malformed ∧ ∀ hosts, (resolver.mailHosts (target.getD source)).outcome = .ok hosts →
      ∀ host ∈ hosts, resolver.Admits mask host
  | _ => True

/-! ## What is found -/

/-- None of the entries found is tagged as invalid. -/
def Findings.Valid (f : Findings) : Prop := ∀ entry ∈ f.entries, entry.tag.isInvalid = false

namespace Findings

theorem valid_append {f g : Findings} : (f ++ g).Valid ↔ f.Valid ∧ g.Valid :=
  List.forall_mem_append

theorem valid_join_map {α : Type} {find : α → Findings} {as : List α} :
    (join (as.map find)).Valid ↔ ∀ a ∈ as, (find a).Valid := by
  simp only [Valid, entries_join, List.flatMap_map, List.mem_flatMap, forall_exists_index, and_imp]
  exact ⟨fun h a ha entry => h entry a ha, fun h entry a ha => h a ha entry⟩

theorem valid_of_entries_eq_nil {f : Findings} (h : f.entries = []) : f.Valid := by
  rw [Valid, h]
  exact List.forall_mem_nil _

end Findings

/-- The tag of a literal marks it as invalid unless it is an address or a network. -/
theorem Literal.isInvalid_tag_eq_false_iff {family : Family} {literal : Literal} :
    (literal.tag family).isInvalid = false ↔
      (∃ address, literal.address? = some address) ∨
        ∃ network, literal.network? = some network := by
  cases literal <;> cases family <;> simp [tag, EntryTag.isInvalid, address?, network?]

/-- The network of a literal is canonical in any case. -/
theorem Literal.isInvalid_tag_read_eq_false_iff {resolver : Resolver} {source : String}
    {family : Family} {value : String} :
    ((read family value).tag family).isInvalid = false ↔
      Term.InOrder resolver source (.literal family value) := by
  have hnetwork : ∀ network, Network.parse value = .ok network ∧ network.family = family ↔
      Network.parse value = .ok network ∧ network.Canonical ∧ network.family = family := by
    intro network
    refine and_congr_right fun hparse => ?_
    exact (and_iff_right (Network.canonical_of_parse_eq_ok hparse)).symm
  simp only [isInvalid_tag_eq_false_iff, address?_read_eq_some_iff, network?_read_eq_some_iff,
    hnetwork, Term.InOrder]

namespace Expansion

variable {resolver : Resolver} {options : ResolveOptions}

theorem valid_entry {site : Site} {tag : EntryTag} {value : String} :
    (entry site tag value).Valid ↔ tag.isInvalid = false :=
  List.forall_mem_singleton

/-- An address of a host is noted as an invalid network if the mask is too long for it. -/
theorem valid_ofAddress {site : Site} {origin : String} {mask : HostMask} {address : Address} :
    (ofAddress site origin mask address).Valid ↔ mask.Fits address := by
  rw [ofAddress, HostMask.Fits]
  cases mask.lengthFor address.family with
  | none => exact iff_of_true (Findings.valid_of_entries_eq_nil rfl) (by simp)
  | some length =>
    dsimp only
    simp only [Option.some.injEq, forall_eq']
    by_cases hlength : length ≤ address.family.width
    · rw [Network.mask_forced hlength]
      exact iff_of_true (Findings.valid_of_entries_eq_nil rfl) hlength
    · rw [Network.mask_of_width_lt true (Nat.lt_of_not_le hlength)]
      exact iff_of_false (fun h => absurd (valid_entry.mp h) (by decide)) hlength

/-- A failed lookup is an issue and no entry. -/
theorem valid_noting {α : Type} {target : String} {outcome : Except LookupError α}
    {use : α → Findings} :
    (noting target outcome use).Valid ↔ ∀ a, outcome = .ok a → (use a).Valid := by
  cases outcome with
  | ok a =>
    simp only [Except.ok.injEq, forall_eq']
    exact Iff.rfl
  | error failure => exact iff_of_true (Findings.valid_of_entries_eq_nil rfl) (by simp)

theorem valid_ownOfHost {site : Site} {token : String} {mask : HostMask} {host : String} :
    (ownOfHost resolver site token mask host).Valid ↔ resolver.Admits mask host := by
  rw [ownOfHost, valid_noting, Resolver.Admits]
  simp only [Findings.valid_join_map, valid_ofAddress]

theorem valid_ownOfMailHosts {site : Site} {token : String} {mask : HostMask} {domain : String} :
    (ownOfMailHosts resolver site token mask domain).Valid ↔
      ∀ hosts, (resolver.mailHosts domain).outcome = .ok hosts →
        ∀ host ∈ hosts, resolver.Admits mask host := by
  rw [ownOfMailHosts, valid_noting]
  simp only [Findings.valid_join_map, valid_ownOfHost]

theorem valid_ownOfExplanation {target : String} :
    (ownOfExplanation resolver options target).Valid := by
  rw [ownOfExplanation]
  split
  · exact valid_noting.mpr fun texts _ => Findings.valid_of_entries_eq_nil rfl
  · exact Findings.valid_of_entries_eq_nil rfl

/-- The entries of a clause are valid exactly if its term is in order. -/
theorem valid_own {site : Site} {clause : Clause} :
    (own resolver options site clause).Valid ↔ clause.term.InOrder resolver site.source := by
  obtain ⟨token, term⟩ := clause
  cases term with
  | literal family value => exact valid_entry.trans Literal.isInvalid_tag_read_eq_false_iff
  | host kind target mask value =>
    by_cases hmask : mask = .malformed
    · subst hmask
      cases kind <;>
        exact iff_of_false (fun h => absurd (valid_entry.mp h) (by decide)) fun h => h.1 rfl
    · cases kind with
      | a =>
        rw [own_a hmask, Findings.valid_append, valid_ownOfHost, Term.InOrder]
        exact and_congr (iff_of_true (valid_entry.mpr rfl) hmask) Iff.rfl
      | mx =>
        rw [own_mx hmask, Findings.valid_append, valid_ownOfMailHosts, Term.InOrder]
        exact and_congr (iff_of_true (valid_entry.mpr rfl) hmask) Iff.rfl
  | explanation target =>
    exact iff_of_true (Findings.valid_append.mpr ⟨valid_entry.mpr rfl, valid_ownOfExplanation⟩)
      trivial
  | version _ | all _ | unknown =>
    exact iff_of_true (Findings.valid_of_entries_eq_nil rfl) trivial
  | inclusion _ | redirection _ | existsTest _ | pointer _ =>
    exact iff_of_true (valid_entry.mpr rfl) trivial

theorem hasInvalidEntries_recordOf_eq_false_iff {site : Site} {raw : String} {statement : Statement}
    {outcomes : List (Option Outcome)} :
    (recordOf resolver options site raw statement outcomes).hasInvalidEntries = false ↔
      ∀ clause ∈ statement.clauses, clause.term.InOrder resolver site.source := by
  rw [PolicyRecord.hasInvalidEntries, entries_recordOf, List.any_eq_false]
  simp only [List.mem_flatMap, forall_exists_index, and_imp, Bool.not_eq_true]
  constructor
  · exact fun h clause hclause => valid_own.mp fun entry hentry => h entry clause hclause hentry
  · exact fun h entry clause hclause hentry => valid_own.mpr (h clause hclause) entry hentry

/-- A record has no invalid entry exactly if the terms in front of the first `all` of its text are
in order. -/
theorem Visit.Reads.hasInvalidEntries_eq_false_iff {visit : Visit} {statement : Statement}
    (h : visit.Reads resolver options statement) :
    visit.record.hasInvalidEntries = false ↔
      ∀ clause ∈ Statement.active (Statement.allClauses visit.record.raw),
        clause.term.InOrder resolver visit.record.source := by
  rw [congrArg PolicyRecord.hasInvalidEntries h.record_eq, hasInvalidEntries_recordOf_eq_false_iff,
    Statement.clauses_of_parse_eq_ok h.parse_eq]
  exact Iff.rfl

end Expansion

end SenderPolicy
