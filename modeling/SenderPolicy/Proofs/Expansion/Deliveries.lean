import SenderPolicy.Proofs.Expansion.FailedLookups
import SenderPolicy.Proofs.Expansion.Networks

/-!
# What lookups bring to a record

A clause about hosts brings the addresses that its lookups find, one by one and in the order of the
answers.  Each of them is a `Delivery`: the address, with the mask of the clause and with the host
and the token that it is put down to.  `Delivery.place` says what becomes of it, and that is one of
three things: it stands for itself, it is widened to a network, or the mask does not fit it.

Beside what it brings, a clause is noted in at most one entry (`Term.stated?`), under a tag that
depends on its value only if it gives a literal (`EntryTag.settled`).

* `Findings.Listed.own`: a list read off the contribution of a clause is what its own entry gives
  and then what each of its deliveries gives.
* `entries_own`, `addresses_own`, `networks_own`: the three lists of a record, clause by clause.

So the recursion from a clause over exchanges to answers is gone through once, for all three lists.
-/

namespace SenderPolicy

/-! ## What is found -/

namespace Resolver

variable (resolver : Resolver)

/-- The addresses that a host is found to have, IPv4 before IPv6; there are none if one of the two
questions fails. -/
def addressesFound (host : String) : List Address :=
  match resolver host .a, resolver host .aaaa with
  | .ok v4, .ok v6 => v4.filterMap Answer.address? ++ v6.filterMap Answer.address?
  | _, _ => []

/-- The mail exchanges that a domain is found to have; there are none if the question fails. -/
def exchangesFound (domain : String) : List String :=
  match resolver domain .mx with
  | .ok answers => answers.filterMap Answer.name?
  | .error _ => []

theorem found_outcome_addresses (host : String) :
    found (resolver.addresses host).outcome = resolver.addressesFound host := by
  rw [outcome_addresses, addressesFound]
  cases resolver host .a with
  | error failure => rfl
  | ok v4 => cases resolver host .aaaa <;> rfl

theorem found_outcome_mailHosts (domain : String) :
    found (resolver.mailHosts domain).outcome = resolver.exchangesFound domain := by
  rw [outcome_mailHosts, exchangesFound]
  cases resolver domain .mx <;> rfl

end Resolver

/-! ## Deliveries -/

/-- An address that a lookup brought, with what it is put down to and the mask that applies. -/
structure Delivery where
  origin : String
  mask : HostMask
  address : Address

/-- Where an address that a lookup brought ends up. -/
inductive Placement where
  /-- Among the addresses of the record. -/
  | address (known : KnownAddress)
  /-- Among the networks of the record. -/
  | network (known : KnownNetwork)
  /-- Among the entries of the record, as an invalid network. -/
  | misfit (value : String)

namespace Placement

/-- The address, if it ends up as one. -/
def address? : Placement → Option KnownAddress
  | address known => some known
  | _ => none

/-- The network, if it ends up as one. -/
def network? : Placement → Option KnownNetwork
  | network known => some known
  | _ => none

/-- The value of the entry, if it ends up as one. -/
def misfit? : Placement → Option String
  | misfit value => some value
  | _ => none

/-- Nothing is lost, and nothing is put in two places. -/
theorem length_filterMap (placements : List Placement) :
    (placements.filterMap address?).length + (placements.filterMap network?).length +
      (placements.filterMap misfit?).length = placements.length := by
  induction placements with
  | nil => rfl
  | cons placement placements ih =>
    cases placement <;>
      simp only [List.filterMap_cons, address?, network?, misfit?, List.length_cons] <;> omega

end Placement

/-- An address without a mask for its family stands for itself, one with a prefix that fits its
family for the network of that length around it; a prefix that is too long makes neither. -/
def Delivery.place (delivery : Delivery) : Placement :=
  match delivery.mask.lengthFor delivery.address.family with
  | none => .address ⟨delivery.origin, delivery.address⟩
  | some length =>
    if length ≤ delivery.address.family.width then
      .network ⟨delivery.origin, delivery.address.truncate length, length⟩
    else .misfit (Network.text ⟨delivery.address, length⟩)

/-- The mask that a term applies to the addresses of its hosts. -/
def Term.mask : Term → HostMask
  | .host _ _ mask _ => mask
  | _ => .absent

/-- The hosts that a term stands for, in a text published under `source`. -/
def Term.hosts (resolver : Resolver) (source : String) : Term → List String
  | .host _ _ .malformed _ => []
  | .host .a target _ _ => [target.getD source]
  | .host .mx target _ _ => resolver.exchangesFound (target.getD source)
  | _ => []

/-- The addresses that a clause brings, host by host. -/
def Clause.deliveries (resolver : Resolver) (source : String) (clause : Clause) : List Delivery :=
  (clause.term.hosts resolver source).flatMap fun host =>
    (resolver.addressesFound host).map fun address =>
      ⟨host ++ " " ++ clause.token, clause.term.mask, address⟩

/-! ## Entries -/

/-- The tag of the mechanisms of a kind. -/
def HostKind.tag : HostKind → EntryTag
  | a => .a
  | mx => .mx

/-- The tag and the value that a clause is noted with before its literals are read; a version, a
verdict and a token that is nothing in particular are not noted. -/
def Term.stated? : Term → Option (EntryTag × String)
  | .literal .v4 value => some (.ip4, value)
  | .literal .v6 value => some (.ip6, value)
  | .inclusion target => some (.inclusion, target)
  | .redirection target => some (.redirection, target)
  | .host _ _ .malformed value => some (.invalidNetwork, value)
  | .host kind _ _ value => some (kind.tag, value)
  | .existsTest value => some (.existsTest, value)
  | .pointer value => some (.pointer, value)
  | .explanation target => some (.explanation, target)
  | .version _ | .all _ | .unknown => none

theorem Term.stated?_host {kind : HostKind} {target : Option String} {mask : HostMask}
    {value : String} (hmask : mask ≠ .malformed) :
    Term.stated? (.host kind target mask value) = some (kind.tag, value) := by
  cases mask <;> first | rfl | exact absurd rfl hmask

/-- The tag once the literals are read: only the tag of a literal depends on its value. -/
def EntryTag.settled (value : String) : EntryTag → EntryTag
  | .ip4 => (Literal.read .v4 value).tag .v4
  | .ip6 => (Literal.read .v6 value).tag .v6
  | tag => tag

/-- The entry once the literals are read. -/
def PolicyEntry.settled (entry : PolicyEntry) : PolicyEntry :=
  { entry with tag := entry.tag.settled entry.value }

/-- The entry that a clause is noted with before its literals are read. -/
def Clause.stated? (domain source : String) (clause : Clause) : Option PolicyEntry :=
  clause.term.stated?.map fun (tag, value) => ⟨domain, source, tag, value⟩

/-- The entries for the addresses of a clause that its mask does not fit. -/
def Clause.misfits (resolver : Resolver) (domain source : String) (clause : Clause) :
    List PolicyEntry :=
  (clause.deliveries resolver source).filterMap fun delivery =>
    delivery.place.misfit?.map fun value => ⟨domain, source, .invalidNetwork, value⟩

/-! ## Literals -/

/-- The address that a term gives literally, if its value denotes one of its family. -/
def Term.literalAddress? : Term → Option Address
  | .literal family value => (Address.parse value).toOption.filter (·.family = family)
  | _ => none

/-- The network that a term gives literally, if its value denotes one of its family. -/
def Term.literalNetwork? : Term → Option Network
  | .literal family value => (Network.parse value).toOption.filter (·.family = family)
  | _ => none

theorem toOption_eq_some_iff {ε α : Type} {x : Except ε α} {a : α} :
    x.toOption = some a ↔ x = .ok a := by
  cases x with
  | error e => simp only [Except.toOption, reduceCtorEq]
  | ok b => rw [Except.toOption, Option.some_inj, Except.ok.injEq]

theorem Literal.address?_read (family : Family) (value : String) :
    (read family value).address? = (Term.literal family value).literalAddress? := by
  refine Option.ext fun a => ?_
  rw [address?_read_eq_some_iff, Term.literalAddress?, Option.filter_eq_some_iff,
    toOption_eq_some_iff, decide_eq_true_iff]

theorem Literal.network?_read (family : Family) (value : String) :
    (read family value).network? = (Term.literal family value).literalNetwork? := by
  refine Option.ext fun n => ?_
  rw [network?_read_eq_some_iff, Term.literalNetwork?, Option.filter_eq_some_iff,
    toOption_eq_some_iff, decide_eq_true_iff]

theorem Clause.bind_address? (clause : Clause) :
    (Literal.ofClause? clause).bind Literal.address? = clause.term.literalAddress? := by
  obtain ⟨token, term⟩ := clause
  cases term with
  | literal family value => exact Literal.address?_read family value
  | _ => rfl

theorem Clause.bind_network? (clause : Clause) :
    (Literal.ofClause? clause).bind Literal.network? = clause.term.literalNetwork? := by
  obtain ⟨token, term⟩ := clause
  cases term with
  | literal family value => exact Literal.network?_read family value
  | _ => rfl

/-! ## Reading a list off findings -/

/-- A list that is read off findings part by part, and in which issues, explanations and records do
not show. -/
structure Findings.Listed {β : Type} (list : Findings → List β) : Prop where
  append : ∀ f g, list (f ++ g) = list f ++ list g
  bare : ∀ f, f.entries = [] → f.addresses = [] → f.networks = [] → list f = []

namespace Findings

theorem listed_entries : Listed Findings.entries := ⟨fun _ _ => rfl, fun _ h _ _ => h⟩

theorem listed_addresses : Listed Findings.addresses := ⟨fun _ _ => rfl, fun _ _ h _ => h⟩

theorem listed_networks : Listed Findings.networks := ⟨fun _ _ => rfl, fun _ _ _ h => h⟩

namespace Listed

open Expansion Resolver

variable {α β : Type} {list : Findings → List β} {resolver : Resolver} {options : ResolveOptions}

theorem join_map (h : Listed list) (find : α → Findings) (as : List α) :
    list (join (as.map find)) = as.flatMap fun a => list (find a) := by
  induction as with
  | nil => exact h.bare empty rfl rfl rfl
  | cons a as ih => rw [List.map_cons, join_cons, h.append, ih, List.flatMap_cons]

/-- A failed lookup brings what an empty answer brings. -/
theorem noting_join (h : Listed list) (target : String)
    (outcome : Except LookupError (List α)) (find : α → Findings) :
    list (noting target outcome fun as => join (as.map find)) =
      (found outcome).flatMap fun a => list (find a) := by
  cases outcome with
  | ok as => exact h.join_map find as
  | error failure => exact h.bare _ rfl rfl rfl

theorem ownOfHost (h : Listed list) (site : Site) (token : String) (mask : HostMask)
    (host : String) :
    list (ownOfHost resolver site token mask host) =
      (resolver.addressesFound host).flatMap fun address =>
        list (ofAddress site (host ++ " " ++ token) mask address) := by
  rw [Expansion.ownOfHost, h.noting_join, found_outcome_addresses]

theorem ownOfMailHosts (h : Listed list) (site : Site) (token : String) (mask : HostMask)
    (domain : String) :
    list (ownOfMailHosts resolver site token mask domain) =
      (resolver.exchangesFound domain).flatMap fun host =>
        (resolver.addressesFound host).flatMap fun address =>
          list (ofAddress site (host ++ " " ++ token) mask address) := by
  rw [Expansion.ownOfMailHosts, h.noting_join, found_outcome_mailHosts]
  simp only [h.ownOfHost]

/-- What a clause contributes is its own entry, and then what each of its deliveries comes to. -/
theorem own (h : Listed list) (site : Site) (clause : Clause) :
    list (own resolver options site clause) =
      list { entries :=
        ((clause.stated? site.domain site.source).map PolicyEntry.settled).toList } ++
        (clause.deliveries resolver site.source).flatMap fun delivery =>
          list (ofAddress site delivery.origin delivery.mask delivery.address) := by
  have hempty : list .empty = [] := h.bare _ rfl rfl rfl
  obtain ⟨token, term⟩ := clause
  cases term with
  | host kind target mask value =>
    by_cases hmask : mask = .malformed
    · subst hmask
      cases kind <;> exact (List.append_nil _).symm
    · cases kind with
      | a =>
        have hhosts : Term.hosts resolver site.source (.host .a target mask value) =
            [target.getD site.source] := by
          cases mask <;> first | rfl | exact absurd rfl hmask
        rw [own_a hmask, h.append, h.ownOfHost, Clause.deliveries, hhosts, Clause.stated?,
          Term.stated?_host hmask, List.flatMap_singleton, List.flatMap_map]
        rfl
      | mx =>
        have hhosts : Term.hosts resolver site.source (.host .mx target mask value) =
            resolver.exchangesFound (target.getD site.source) := by
          cases mask <;> first | rfl | exact absurd rfl hmask
        rw [own_mx hmask, h.append, h.ownOfMailHosts, Clause.deliveries, hhosts, Clause.stated?,
          Term.stated?_host hmask, List.flatMap_assoc]
        simp only [List.flatMap_map]
        rfl
  | explanation target =>
    have hexplanation : list (ownOfExplanation resolver options target) = [] := by
      rw [ownOfExplanation]
      split
      · cases (resolver.texts target).outcome <;> exact h.bare _ rfl rfl rfl
      · exact hempty
    have happend : Expansion.own resolver options site ⟨token, .explanation target⟩ =
        entry site .explanation target ++ ownOfExplanation resolver options target := rfl
    rw [happend, h.append, hexplanation]
    rfl
  | literal family value => cases family <;> exact (List.append_nil _).symm
  | _ => exact (List.append_nil _).symm

end Listed

end Findings

namespace Expansion

variable {resolver : Resolver} {options : ResolveOptions}

/-! ## The three lists -/

/-- An address of a host contributes the one thing that it is placed as. -/
theorem ofAddress_eq (site : Site) (delivery : Delivery) :
    ofAddress site delivery.origin delivery.mask delivery.address =
      match delivery.place with
      | .address known => { addresses := [known] }
      | .network known => { networks := [known] }
      | .misfit value => entry site .invalidNetwork value := by
  obtain ⟨origin, mask, address⟩ := delivery
  rw [ofAddress, Delivery.place]
  cases hlength : mask.lengthFor address.family with
  | none => rfl
  | some length =>
    dsimp only
    by_cases hfits : length ≤ address.family.width
    · rw [Network.mask_forced hfits, if_pos hfits]
    · rw [Network.mask_of_width_lt true (Nat.lt_of_not_le hfits), if_neg hfits]

theorem addresses_ofAddress (site : Site) (delivery : Delivery) :
    (ofAddress site delivery.origin delivery.mask delivery.address).addresses =
      delivery.place.address?.toList := by
  rw [ofAddress_eq]
  cases delivery.place <;> rfl

theorem networks_ofAddress (site : Site) (delivery : Delivery) :
    (ofAddress site delivery.origin delivery.mask delivery.address).networks =
      delivery.place.network?.toList := by
  rw [ofAddress_eq]
  cases delivery.place <;> rfl

theorem entries_ofAddress (site : Site) (delivery : Delivery) :
    (ofAddress site delivery.origin delivery.mask delivery.address).entries =
      (delivery.place.misfit?.map fun value =>
        ⟨site.domain, site.source, .invalidNetwork, value⟩).toList := by
  rw [ofAddress_eq]
  cases delivery.place <;> rfl

theorem addresses_own (site : Site) (clause : Clause) :
    (own resolver options site clause).addresses =
      (clause.deliveries resolver site.source).filterMap (·.place.address?) := by
  rw [Findings.listed_addresses.own, List.nil_append, List.filterMap_eq_flatMap_toList]
  simp only [addresses_ofAddress]

theorem networks_own (site : Site) (clause : Clause) :
    (own resolver options site clause).networks =
      (clause.deliveries resolver site.source).filterMap (·.place.network?) := by
  rw [Findings.listed_networks.own, List.nil_append, List.filterMap_eq_flatMap_toList]
  simp only [networks_ofAddress]

/-- A clause leaves its own entry, and behind it those for the addresses that its mask does not
fit. -/
theorem entries_own (site : Site) (clause : Clause) :
    (own resolver options site clause).entries =
      ((clause.stated? site.domain site.source).map PolicyEntry.settled).toList ++
        clause.misfits resolver site.domain site.source := by
  rw [Findings.listed_entries.own, Clause.misfits, List.filterMap_eq_flatMap_toList]
  simp only [entries_ofAddress]

end Expansion

end SenderPolicy
