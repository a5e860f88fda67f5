import Mathlib
import SenderPolicy.Dns.Zone
import SenderPolicy.Proofs.Expansion.Abort
import SenderPolicy.Proofs.Expansion.Coverage
import SenderPolicy.Proofs.Expansion.Networks
import SenderPolicy.Proofs.Expansion.Tolerance

/-!
# No mask goes wrong

* `networks_sound`: all networks are sound, those that are made by hand and those of the records of
  a result; and a mask never makes a resolution fail.

The addresses that a resolver answers with are arbitrary, and so is the prefix that a mechanism
applies to them.  What does not fit together is an entry of the record.  So if a resolution fails
that has got as far as the texts, then a lookup failed (`Traced.FailsByLookup`): where failures are
tolerated there is always a result, and where they are not a resolution is cut short at the first
question that has no answer.
-/

namespace SenderPolicy

open Statement

/-! ## Failures -/

namespace Traced

variable {resolver : Resolver} {α β : Type}

/-- If the run fails, then because a question that it asked has no answer. -/
def FailsByLookup (resolver : Resolver) (run : Traced PolicyError α) : Prop :=
  ∀ e, run.outcome = .error e → ∃ query ∈ run.queries, ∃ failure,
    resolver query.name query.type = .error failure ∧ e = .lookup failure

theorem failsByLookup_of_ok {run : Traced PolicyError α} (h : ∃ a, run.outcome = .ok a) :
    FailsByLookup resolver run := by
  obtain ⟨a, ha⟩ := h
  intro e he
  rw [ha] at he
  cases he

theorem Faithful.failsByLookup {lookup : Traced LookupError α} (h : Faithful resolver lookup) :
    FailsByLookup resolver (lookup.mapError .lookup) := by
  cases h with
  | ok _ => exact failsByLookup_of_ok ⟨_, rfl⟩
  | @error before query failure _ hfailure =>
    intro e he
    cases he
    exact ⟨query, List.mem_append_right _ (List.mem_singleton_self _), failure, hfailure, rfl⟩

theorem CutAtFailure.failsByLookup {full cut : Traced PolicyError α}
    (h : CutAtFailure resolver .lookup full cut) (hfull : ∃ a, full.outcome = .ok a) :
    FailsByLookup resolver cut := by
  cases h with
  | same _ => exact failsByLookup_of_ok hfull
  | @cut _ before _ query failure _ hfailure =>
    intro e he
    cases he
    exact ⟨query, List.mem_append_right _ (List.mem_singleton_self _), failure, hfailure, rfl⟩

theorem FailsByLookup.bind {x : Traced PolicyError α} {next : α → Traced PolicyError β}
    (h : FailsByLookup resolver x)
    (hnext : ∀ a, x.outcome = .ok a → FailsByLookup resolver (next a)) :
    FailsByLookup resolver (x >>= next) := by
  intro e he
  cases hx : x.outcome with
  | error e' =>
    rw [bind_of_error hx] at he ⊢
    cases he
    exact h e hx
  | ok a =>
    rw [bind_of_ok hx] at he ⊢
    obtain ⟨query, hquery, hfailure⟩ := hnext a hx e he
    exact ⟨query, List.mem_append_right _ hquery, hfailure⟩

end Traced

namespace Expansion

variable {resolver : Resolver} {options : ResolveOptions}

/-- Where failures are tolerated, the well-formed text of an accepted domain has a result. -/
theorem exists_outcome_resolveText (hpolicy : options.onFailure = .tolerate)
    {domain ascii raw : String} (hdomain : normalizeDomain domain = .ok ascii)
    (hraw : WellFormed raw) :
    ∃ records, (resolveText resolver options ascii raw).outcome = .ok records := by
  obtain ⟨statement, hparse⟩ := exists_parse_eq_ok_iff.mpr hraw
  obtain ⟨records, hrecords⟩ : ∃ records,
      (parseRecord resolver options domain raw).outcome = .ok records :=
    exists_outcome_parseRecord hpolicy hdomain hparse
  rw [parseRecord, Traced.outcome_bind_eq_ok] at hrecords
  obtain ⟨ascii', hascii, hrecords⟩ := hrecords
  obtain rfl := Except.ok.inj (hdomain.symm.trans hascii)
  exact ⟨records, hrecords⟩

theorem failsByLookup_resolveText {domain ascii raw : String}
    (hdomain : normalizeDomain domain = .ok ascii) (hraw : WellFormed raw) :
    Traced.FailsByLookup resolver (resolveText resolver options ascii raw) := by
  cases hpolicy : options.onFailure with
  | tolerate => exact Traced.failsByLookup_of_ok (exists_outcome_resolveText hpolicy hdomain hraw)
  | abort =>
    have hsame : { options with onFailure := .abort } = options := by rw [← hpolicy]
    have hcut := @cutAtFailure_resolveText resolver options ascii raw
    rw [hsame] at hcut
    exact hcut.failsByLookup (exists_outcome_resolveText rfl hdomain hraw)

theorem failsByLookup_parseRecord {domain ascii raw : String}
    (hdomain : normalizeDomain domain = .ok ascii) (hraw : WellFormed raw) :
    Traced.FailsByLookup resolver (parseRecord resolver options domain raw) := by
  refine (Traced.failsByLookup_of_ok ⟨ascii, hdomain⟩).bind fun ascii' hascii => ?_
  exact failsByLookup_resolveText hascii hraw

theorem failsByLookup_resolve {domain ascii : String} (hdomain : normalizeDomain domain = .ok ascii)
    (hraw : ∀ raw, (resolver.policiesAt ascii).head? = some raw → WellFormed raw) :
    Traced.FailsByLookup resolver (resolve resolver options domain) := by
  refine (Traced.failsByLookup_of_ok ⟨ascii, hdomain⟩).bind fun ascii' hascii => ?_
  obtain rfl := Except.ok.inj (hdomain.symm.trans hascii)
  refine (faithful_policyTexts ascii).failsByLookup.bind fun raws hraws => ?_
  cases raws with
  | nil => exact Traced.failsByLookup_of_ok ⟨[], rfl⟩
  | cons raw raws =>
    have hpolicies : resolver.policiesAt ascii = raw :: raws := by
      rw [Resolver.policiesAt, Traced.outcome_mapError_eq_ok.mp hraws]
    exact failsByLookup_resolveText hdomain (hraw raw (by rw [hpolicies]; rfl))

/-! ## Networks -/

/-- Masks have no fault in words.  Every network is sound, whether it is made of an address in any
number of steps or found on a record of a result; an answer that a mask is too long for is noted
there.  And a resolution of well-formed texts fails by lookups only. -/
theorem networks_sound (resolver : Resolver) (options : ResolveOptions) :
    (∀ a p force, Word.mask a p force = .ok (Network.mask a p.toNat force)) ∧
    (∀ input n, Network.MadeFrom input n → n.Sound input) ∧
    (∀ records, IsResult resolver options records → ∀ record ∈ records,
      (∀ known ∈ record.networks, ∃ input, record.Derives resolver known input ∧
        known.network.Sound input) ∧
      ∀ clause ∈ active (allClauses record.raw), ∀ mask host answer p,
        clause.Brings resolver record.source mask host answer →
        mask.lengthFor answer.family = some p → answer.family.width < p →
        ⟨record.domain, record.source, .invalidNetwork, Network.text ⟨answer, p⟩⟩ ∈
          record.entries) ∧
    ∀ domain ascii, normalizeDomain domain = .ok ascii →
      (∀ raw, WellFormed raw →
        Traced.FailsByLookup resolver (parseRecord resolver options domain raw)) ∧
      ((∀ raw, (resolver.policiesAt ascii).head? = some raw → WellFormed raw) →
        Traced.FailsByLookup resolver (resolve resolver options domain)) := by
  refine ⟨Word.mask_eq, fun input n => Network.MadeFrom.sound, ?_, ?_⟩
  · intro records h record hrecord
    constructor
    · intro known hknown
      obtain ⟨input, hderives⟩ := exists_derives_of_mem_networks h hrecord hknown
      exact ⟨input, hderives, (madeFrom_of_derives hderives).sound⟩
    · intro clause hclause mask host answer p hbrings hlength hlong
      exact invalidNetwork_mem_entries h hrecord hclause hbrings hlength hlong
  · intro domain ascii hdomain
    exact ⟨fun raw hraw => failsByLookup_parseRecord hdomain hraw,
      fun hraw => failsByLookup_resolve hdomain hraw⟩

/-- A mask that is too long for an IPv4 answer, and one that fits. -/
theorem networks_sound_of_zone :
    let resolver := Zone.resolver [⟨"a", .a, .ok [.address (.ofNat .v4 0xC0000207)]⟩]
    let known : KnownNetwork := ⟨"a a/24", ⟨.ofNat .v4 0xC0000200, 24⟩⟩
    let record : PolicyRecord :=
      { domain := "a", source := "a", raw := "v=spf1 a/24 a/33 -all", version := "spf1",
        depth := 0, action := .fail,
        entries := [⟨"a", "a", .a, "/24"⟩, ⟨"a", "a", .a, "/33"⟩,
          ⟨"a", "a", .invalidNetwork, "192.0.2.7/33"⟩],
        addresses := [], networks := [known], explanation := none, issues := [] }
    IsResult resolver {} [record] ∧
      Network.Sound (.ofNat .v4 0xC0000207) ⟨.ofNat .v4 0xC0000200, 24⟩ ∧
      (∃ input, record.Derives resolver known input ∧ known.network.Sound input) ∧
      ⟨"a", "a", .invalidNetwork, "192.0.2.7/33"⟩ ∈ record.entries ∧
      Traced.FailsByLookup resolver (parseRecord resolver {} "a" "v=spf1 a/24 a/33 -all") ∧
      Traced.FailsByLookup resolver (resolve resolver {} "a") := by
  intro resolver known record
  have hresult : IsResult resolver {} [record] := by
    refine Or.inl ⟨"a", "v=spf1 a/24 a/33 -all", outcome_parseRecord_eq_ok.mpr
      ⟨"a", ⟨"spf1", .fail, [⟨"v=spf1", .version "spf1"⟩,
        ⟨"a/24", .host .a none (.lengths (some 24) (some 24)) "/24"⟩,
        ⟨"a/33", .host .a none (.lengths (some 33) (some 33)) "/33"⟩]⟩, rfl,
        by decide +kernel, by decide +kernel⟩⟩
  obtain ⟨-, hmade, hrecords, hfails⟩ := networks_sound resolver {}
  obtain ⟨hnetworks, hentries⟩ := hrecords [record] hresult record (List.mem_singleton_self _)
  obtain ⟨hparse, hresolve⟩ := hfails "a" "a" rfl
  let clause : Clause := ⟨"a/33", .host .a none (.lengths (some 33) (some 33)) "/33"⟩
  have hstands : clause.StandsFor resolver "a" (.lengths (some 33) (some 33)) "a" :=
    @Clause.StandsFor.a resolver "a" clause _ none "/33" rfl (by decide)
  have hanswer : (resolver.addresses "a").outcome = .ok [.ofNat .v4 0xC0000207] := by decide +kernel
  have hmask : Network.mask (.ofNat .v4 0xC0000207) 24 true =
      .ok ⟨.ofNat .v4 0xC0000200, 24⟩ := rfl
  refine ⟨hresult, hmade _ _ (.mask hmask), hnetworks known (List.mem_singleton_self _), ?_,
    hparse _ (by decide), hresolve ?_⟩
  · exact hentries clause (by decide) _ "a" (.ofNat .v4 0xC0000207) 33
      ⟨hstands, _, hanswer, List.mem_singleton_self _⟩ rfl (by decide)
  · intro raw hraw
    have hnone : (resolver.policiesAt "a").head? = none := by decide +kernel
    rw [hnone] at hraw
    cases hraw

end Expansion

end SenderPolicy
