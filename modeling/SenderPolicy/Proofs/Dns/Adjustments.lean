import Mathlib.Data.List.Basic
import Mathlib.Data.List.Induction
import SenderPolicy.CommandLine.Arguments
import SenderPolicy.Proofs.Net.Spelling

/-!
# Settings by adjustments

Settings start from the defaults and are adjusted one thing at a time, in any order and any number
of times.  What they come to does not depend on the way there.

* `adjust_outcome`, `ofAdjustments_eq_outcome`: the outcome of adjustments is said in one go, one
  more of them turns it into the outcome of all, and so it is what they make.
* `pairwise_idxOf_eraseDups`: servers stand in the order in which they come up first, so no two of
  them are the same.
* `addressesOf_iff`: the servers that are read as addresses are those that denote one.
* `followsFrom_ofAdjustments`: the settings in terms of the servers as they are given, blanks and
  all, and of the addresses among them.
* `ofAdjustments_settled`: this, and that it makes no difference how servers are grouped, or whether
  one is given again.
* `Arguments.followsFrom_resolverSettings`: the flags of the command line make settings of this kind.

A server is trimmed before it is compared and before it is kept, and somebody who reads addresses
from the texts as they are given trims them as well.  What is left is the same for all of them, and
it is left alone by trimming (`Text.trim_trim`).
-/

namespace SenderPolicy

/-! ## First occurrences -/

section FirstOccurrences

variable {α : Type} [BEq α] [LawfulBEq α] {a : α} {as : List α}

theorem eraseDups_concat_of_mem (h : a ∈ as) : (as ++ [a]).eraseDups = as.eraseDups := by
  simp [List.eraseDups_append, List.removeAll, h]

theorem eraseDups_concat_of_not_mem (h : a ∉ as) :
    (as ++ [a]).eraseDups = as.eraseDups ++ [a] := by
  simp [List.eraseDups_append, List.eraseDups_cons, List.removeAll, h]

/-- What is kept of a list stands in the order in which it comes up first. -/
theorem pairwise_idxOf_eraseDups (as : List α) :
    as.eraseDups.Pairwise fun a b => as.idxOf a < as.idxOf b := by
  induction as using List.reverseRecOn with
  | nil => exact .nil
  | append_singleton as last ih =>
    have hkeep : as.eraseDups.Pairwise fun a b => (as ++ [last]).idxOf a < (as ++ [last]).idxOf b :=
      ih.imp_of_mem fun ha hb hlt => by
        rwa [List.idxOf_append_of_mem (List.mem_eraseDups.mp ha),
          List.idxOf_append_of_mem (List.mem_eraseDups.mp hb)]
    by_cases hlast : last ∈ as
    · rwa [eraseDups_concat_of_mem hlast]
    · rw [eraseDups_concat_of_not_mem hlast, List.pairwise_append]
      refine ⟨hkeep, List.pairwise_singleton .., fun a ha b hb => ?_⟩
      obtain rfl := List.mem_singleton.mp hb
      have ha := List.mem_eraseDups.mp ha
      rw [List.idxOf_append_of_mem ha, List.idxOf_append_of_notMem hlast]
      have hlt := List.idxOf_lt_length_of_mem ha
      omega

theorem nodup_eraseDups (as : List α) : as.eraseDups.Nodup :=
  (pairwise_idxOf_eraseDups as).imp fun hlt heq => by
    rw [heq] at hlt
    exact lt_irrefl _ hlt

end FirstOccurrences

namespace ResolverSettings

/-! ## Adjustments -/

/-- What can be done to settings. -/
inductive Adjustment where
  | nameserver (server : String)
  | nameservers (servers : List String)
  | timeoutMs (timeoutMs : Nat)
  | attempts (attempts : Nat)

namespace Adjustment

/-- The servers that an adjustment gives. -/
@[simp] def servers : Adjustment → List String
  | nameserver server => [server]
  | nameservers servers => servers
  | timeoutMs _ => []
  | attempts _ => []

/-- The waiting time that an adjustment sets. -/
@[simp] def timeoutMs? : Adjustment → Option Nat
  | timeoutMs n => some n
  | _ => none

/-- The number of attempts that an adjustment asks for. -/
@[simp] def attempts? : Adjustment → Option Nat
  | attempts n => some n
  | _ => none

end Adjustment

/-- Make an adjustment. -/
def adjust (settings : ResolverSettings) : Adjustment → ResolverSettings
  | .nameserver server => settings.addNameserver server
  | .nameservers servers => settings.addNameservers servers
  | .timeoutMs n => settings.setTimeoutMs n
  | .attempts n => settings.setAttempts n

/-- The defaults, adjusted in turn. -/
def ofAdjustments (adjustments : List Adjustment) : ResolverSettings := adjustments.foldl adjust {}

/-- The servers that are given, as they are given. -/
def given (adjustments : List Adjustment) : List String := adjustments.flatMap Adjustment.servers

/-- What is left of servers: trimmed texts, and no empty ones. -/
def texts (servers : List String) : List String := (servers.map Text.trim).filter (· ≠ "")

/-- What adjustments come to.  Of equal servers the first one counts, of anything else the last. -/
def outcome (adjustments : List Adjustment) : ResolverSettings where
  nameservers := (texts (given adjustments)).eraseDups
  timeoutMs := (adjustments.filterMap Adjustment.timeoutMs?).getLast?.getD 5000
  attempts := ((adjustments.filterMap Adjustment.attempts?).getLast?.map (max · 1)).getD 2

variable {servers : List String} {server text : String} {adjustments before after : List Adjustment}

theorem given_append (before after : List Adjustment) :
    given (before ++ after) = given before ++ given after :=
  List.flatMap_append

theorem texts_append (before after : List String) :
    texts (before ++ after) = texts before ++ texts after := by
  simp [texts]

theorem mem_texts_iff :
    text ∈ texts servers ↔ text ≠ "" ∧ ∃ server ∈ servers, Text.trim server = text := by
  simp [texts, and_comm]

/-- Servers that are given one by one. -/
theorem given_map_nameserver (servers : List String) :
    given (servers.map .nameserver) = servers := by
  induction servers with
  | nil => rfl
  | cons server servers ih => exact congrArg (server :: ·) ih

/-! ## One adjustment, and all of them -/

/-- Adding a server that is empty, or already there, changes nothing. -/
theorem addNameserver_eq_self {settings : ResolverSettings}
    (h : Text.trim server = "" ∨ Text.trim server ∈ settings.nameservers) :
    settings.addNameserver server = settings :=
  if_pos h

theorem addNameserver_eraseDups (seen : List String) (timeoutMs attempts : Nat) (server : String) :
    addNameserver ⟨seen.eraseDups, timeoutMs, attempts⟩ server =
      ⟨(seen ++ texts [server]).eraseDups, timeoutMs, attempts⟩ := by
  by_cases hempty : Text.trim server = ""
  · rw [addNameserver_eq_self (Or.inl hempty)]
    simp [texts, hempty]
  · have htexts : texts [server] = [Text.trim server] := by simp [texts, hempty]
    rw [htexts]
    by_cases hseen : Text.trim server ∈ seen
    · rw [addNameserver_eq_self (Or.inr (List.mem_eraseDups.mpr hseen)),
        eraseDups_concat_of_mem hseen]
    · rw [eraseDups_concat_of_not_mem hseen, addNameserver]
      simp [hempty, hseen]

theorem addNameservers_eraseDups (seen : List String) (timeoutMs attempts : Nat)
    (servers : List String) :
    addNameservers ⟨seen.eraseDups, timeoutMs, attempts⟩ servers =
      ⟨(seen ++ texts servers).eraseDups, timeoutMs, attempts⟩ := by
  induction servers generalizing seen with
  | nil => simp [addNameservers, texts]
  | cons server servers ih =>
    have htexts : texts (server :: servers) = texts [server] ++ texts servers :=
      texts_append [server] servers
    rw [addNameservers, List.foldl_cons, addNameserver_eraseDups, ← addNameservers, ih, htexts,
      List.append_assoc]

/-- One more adjustment makes the outcome of all from that of the earlier ones. -/
theorem adjust_outcome (adjustments : List Adjustment) (adjustment : Adjustment) :
    (outcome adjustments).adjust adjustment = outcome (adjustments ++ [adjustment]) := by
  have hgiven : given (adjustments ++ [adjustment]) = given adjustments ++ adjustment.servers := by
    rw [given_append]
    simp [given]
  cases adjustment with
  | nameserver server =>
    rw [adjust, outcome, addNameserver_eraseDups, ← texts_append]
    simp [outcome, hgiven]
  | nameservers servers =>
    rw [adjust, outcome, addNameservers_eraseDups, ← texts_append]
    simp [outcome, hgiven]
  | timeoutMs n => simp [adjust, setTimeoutMs, outcome, hgiven]
  | attempts n => simp [adjust, setAttempts, outcome, hgiven]

/-- What the adjustments make is their outcome. -/
theorem ofAdjustments_eq_outcome (adjustments : List Adjustment) :
    ofAdjustments adjustments = outcome adjustments := by
  induction adjustments using List.reverseRecOn with
  | nil => rfl
  | append_singleton adjustments adjustment ih =>
    rw [ofAdjustments, List.foldl_concat, ← ofAdjustments, ih, adjust_outcome]

/-! ## Addresses among the servers -/

/-- The addresses that texts denote, in order.  A text that denotes none is passed over. -/
inductive AddressesOf : List String → List Address → Prop
  | nil : AddressesOf [] []
  | literal {text : String} {address : Address} {texts : List String} {addresses : List Address}
      (h : Address.Denotes text.toList address) (hrest : AddressesOf texts addresses) :
      AddressesOf (text :: texts) (address :: addresses)
  | other {text : String} {texts : List String} {addresses : List Address}
      (h : ∀ address, ¬Address.Denotes text.toList address) (hrest : AddressesOf texts addresses) :
      AddressesOf (text :: texts) addresses

/-- They are what a reader finds that skips what it cannot read. -/
theorem addressesOf_iff {texts : List String} {addresses : List Address} :
    AddressesOf texts addresses ↔
      texts.filterMap (fun text => Address.read? text.toList) = addresses := by
  constructor
  · intro h
    induction h with
    | nil => rfl
    | literal h _ ih =>
      have hread := Address.read?_eq_some_iff.mpr h
      simp [hread, ih]
    | other h _ ih =>
      have hread := Option.eq_none_iff_forall_ne_some.mpr fun address hread =>
        h address (Address.read?_eq_some_iff.mp hread)
      simp [hread, ih]
  · rintro rfl
    induction texts with
    | nil => exact .nil
    | cons text texts ih =>
      rw [List.filterMap_cons]
      split
      · next hread =>
        refine .other (fun address h => ?_) ih
        rw [Address.read?_eq_some_iff.mpr h] at hread
        cases hread
      · next address hread => exact .literal (Address.read?_eq_some_iff.mp hread) ih

theorem mem_nameservers_outcome_iff : text ∈ (outcome adjustments).nameservers ↔
    text ≠ "" ∧ ∃ server ∈ given adjustments, Text.trim server = text :=
  List.mem_eraseDups.trans mem_texts_iff

/-- The servers that are known by their address are those that were given by it. -/
theorem mem_nameserverAddresses_outcome_iff {address : Address} :
    address ∈ (outcome adjustments).nameserverAddresses ↔
      ∃ server ∈ given adjustments, Address.parse server = .ok address := by
  simp only [nameserverAddresses, List.mem_filterMap, mem_nameservers_outcome_iff,
    Address.parse_eq_ok_iff, ← Address.read?_eq_some_iff, ← Text.toList_trim]
  constructor
  · rintro ⟨text, ⟨-, server, hserver, rfl⟩, hread⟩
    exact ⟨server, hserver, hread⟩
  · rintro ⟨server, hserver, hread⟩
    refine ⟨Text.trim server, ⟨fun hempty => ?_, server, hserver, rfl⟩, hread⟩
    -- The empty text is no address, so nothing was lost with it.
    rw [hempty] at hread
    cases hread

/-! ## Everything about the settings -/

/-- What settings are that are made by adjustments. -/
structure FollowsFrom (adjustments : List Adjustment) (settings : ResolverSettings) : Prop where
  /-- Servers are the trimmed texts given, without the empty ones, each where it comes up first. -/
  nameservers_eq : settings.nameservers = (texts (given adjustments)).eraseDups
  nodup : settings.nameservers.Nodup
  in_order : settings.nameservers.Pairwise fun a b =>
    (texts (given adjustments)).idxOf a < (texts (given adjustments)).idxOf b
  /-- They are what is left of the servers given, without the blanks around them. -/
  mem_iff : ∀ text, text ∈ settings.nameservers ↔
    text ≠ "" ∧ ∃ server ∈ given adjustments, Text.IsTrimmed server.toList text.toList
  /-- Trimming them again leaves them as they are. -/
  trim_eq : ∀ text ∈ settings.nameservers, Text.trim text = text
  /-- The waiting time is the last one set. -/
  timeoutMs_eq : settings.timeoutMs =
    (adjustments.filterMap Adjustment.timeoutMs?).getLast?.getD 5000
  /-- The number of attempts is the last one asked for, where none is raised to one. -/
  attempts_eq : settings.attempts =
    ((adjustments.filterMap Adjustment.attempts?).getLast?.map (max · 1)).getD 2
  one_le_attempts : 1 ≤ settings.attempts
  addresses : AddressesOf settings.nameservers settings.nameserverAddresses
  /-- Whoever forgives blanks reads the same addresses from the servers as they are given. -/
  mem_addresses_iff : ∀ address, address ∈ settings.nameserverAddresses ↔
    ∃ server ∈ given adjustments, Address.parse server = .ok address

/-- Between any other adjustments it makes no difference how servers are grouped, or whether one is
given again. -/
structure Indifferent (before after : List Adjustment) : Prop where
  one_by_one : ∀ servers, ofAdjustments (before ++ .nameservers servers :: after) =
    ofAdjustments (before ++ servers.map .nameserver ++ after)
  again : ∀ server earlier, earlier ∈ given before → Text.trim server = Text.trim earlier →
    ofAdjustments (before ++ .nameserver server :: after) = ofAdjustments (before ++ after)
  /-- The first of the two may be among the servers of the same adjustment. -/
  again_within : ∀ front server back earlier, earlier ∈ given before ++ front →
    Text.trim server = Text.trim earlier →
    ofAdjustments (before ++ .nameservers (front ++ server :: back) :: after) =
      ofAdjustments (before ++ .nameservers (front ++ back) :: after)

theorem one_le_attempts_outcome (adjustments : List Adjustment) :
    1 ≤ (outcome adjustments).attempts := by
  show 1 ≤ ((adjustments.filterMap Adjustment.attempts?).getLast?.map (max · 1)).getD 2
  cases (adjustments.filterMap Adjustment.attempts?).getLast? with
  | none => decide
  | some n => exact Nat.le_max_right n 1

theorem followsFrom_ofAdjustments (adjustments : List Adjustment) :
    FollowsFrom adjustments (ofAdjustments adjustments) := by
  rw [ofAdjustments_eq_outcome]
  constructor
  case nameservers_eq => rfl
  case nodup => exact nodup_eraseDups _
  case in_order => exact pairwise_idxOf_eraseDups _
  case mem_iff =>
    intro text
    simp only [mem_nameservers_outcome_iff, ← Text.trimBlanks_eq_iff, ← Text.toList_trim,
      String.toList_inj]
  case trim_eq =>
    intro text htext
    obtain ⟨-, server, -, rfl⟩ := mem_nameservers_outcome_iff.mp htext
    exact Text.trim_trim server
  case timeoutMs_eq => rfl
  case attempts_eq => rfl
  case one_le_attempts => exact one_le_attempts_outcome adjustments
  case addresses => exact addressesOf_iff.mpr rfl
  case mem_addresses_iff => exact fun address => mem_nameserverAddresses_outcome_iff

theorem ofAdjustments_append (before after : List Adjustment) :
    ofAdjustments (before ++ after) = after.foldl adjust (ofAdjustments before) :=
  List.foldl_append

theorem ofAdjustments_nameservers (before after : List Adjustment) (servers : List String) :
    ofAdjustments (before ++ .nameservers servers :: after) =
      ofAdjustments (before ++ servers.map .nameserver ++ after) := by
  rw [List.append_assoc, ofAdjustments_append, ofAdjustments_append, List.foldl_cons,
    List.foldl_append, List.foldl_map]
  rfl

theorem ofAdjustments_again {earlier : String} (after : List Adjustment)
    (hearlier : earlier ∈ given before) (htrim : Text.trim server = Text.trim earlier) :
    ofAdjustments (before ++ .nameserver server :: after) = ofAdjustments (before ++ after) := by
  have hself : (ofAdjustments before).addNameserver server = ofAdjustments before := by
    refine addNameserver_eq_self (or_iff_not_imp_left.mpr fun hne => ?_)
    rw [ofAdjustments_eq_outcome, mem_nameservers_outcome_iff]
    exact ⟨hne, earlier, hearlier, htrim.symm⟩
  rw [ofAdjustments_append, ofAdjustments_append, List.foldl_cons, adjust, hself]

theorem indifferent (before after : List Adjustment) : Indifferent before after where
  one_by_one := ofAdjustments_nameservers before after
  again server earlier := ofAdjustments_again after
  again_within front server back earlier hearlier htrim := by
    rw [← given_map_nameserver front, ← given_append] at hearlier
    have hagain := ofAdjustments_again (back.map .nameserver ++ after) hearlier htrim
    rw [ofAdjustments_nameservers, ofAdjustments_nameservers]
    simpa using hagain

/-- Settings are what the adjustments say, however and however often they say it. -/
theorem ofAdjustments_settled (adjustments before after : List Adjustment) :
    FollowsFrom adjustments (ofAdjustments adjustments) ∧ Indifferent before after :=
  ⟨followsFrom_ofAdjustments adjustments, indifferent before after⟩

example : ofAdjustments
    [.nameservers ["192.0.2.53", "not-an-ip", "192.0.2.53", " 2001:db8::53 "], .attempts 0,
      .timeoutMs 1500] =
    ⟨["192.0.2.53", "not-an-ip", "2001:db8::53"], 1500, 1⟩ := by decide

end ResolverSettings

/-- What the flags set up is made by adjustments as well. -/
theorem Arguments.followsFrom_resolverSettings (arguments : Arguments) :
    ResolverSettings.FollowsFrom
      [.nameservers arguments.nameservers, .timeoutMs (arguments.timeoutMs.getD 5000),
        .attempts (arguments.attempts.getD 2)]
      arguments.resolverSettings :=
  ResolverSettings.followsFrom_ofAdjustments _

end SenderPolicy
