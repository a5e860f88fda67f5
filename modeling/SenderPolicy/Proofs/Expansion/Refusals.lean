import SenderPolicy.Proofs.Expansion.Masks

/-!
# When there is no result

A resolution of a text at hand fails in three ways: the domain is refused, the text is malformed, or
a lookup fails where that is not tolerated.  `failsJustly` says which of them it is.

The texts that are met on the way can be malformed too, at any depth and under either policy, and
no resolution fails for that.  Where a failure is put down to a malformed text, it is the text at
hand, with the reason that this text is malformed for; and then nothing has been looked up.
-/

namespace SenderPolicy

open Statement

/-- The resolution of a text at hand fails with the error that its domain, its text and the answers
to its questions call for. -/
structure FailsJustly (resolver : Resolver) (options : ResolveOptions) (domain raw : String) :
    Prop where
  /-- If the domain is accepted and failures are tolerated, a resolution fails exactly if the text
  is malformed. -/
  tolerated : options.onFailure = .tolerate → ∀ ascii, normalizeDomain domain = .ok ascii →
    ∀ error, (parseRecord resolver options domain raw).outcome = .error error ↔
      ∃ reason, Malformed raw reason ∧ error = .malformed raw reason
  /-- Otherwise the domain may be refused, or a question may have failed that was asked. -/
  cases : ∀ error, (parseRecord resolver options domain raw).outcome = .error error →
    normalizeDomain domain = .error error ∨
      (∃ reason, Malformed raw reason ∧ error = .malformed raw reason) ∨
      options.onFailure = .abort ∧
        ∃ query ∈ (parseRecord resolver options domain raw).queries, ∃ failure,
          resolver query.name query.type = .error failure ∧ error = .lookup failure
  /-- A malformed text is the one at hand, and that one is always refused. -/
  own : ∀ text reason,
    (parseRecord resolver options domain raw).outcome = .error (.malformed text reason) ↔
      (∃ ascii, normalizeDomain domain = .ok ascii) ∧ text = raw ∧ Malformed raw reason
  /-- Nothing is looked up for a malformed text. -/
  silent : (∃ reason, Malformed raw reason) →
    (parseRecord resolver options domain raw).queries = []

namespace Expansion

variable {resolver : Resolver} {options : ResolveOptions} {domain ascii raw : String}

theorem normalizeDomain_ne_malformed {text : String} {reason : MalformedReason} :
    normalizeDomain domain ≠ .error (.malformed text reason) := by
  rw [normalizeDomain]
  split
  · exact nofun
  · split <;> exact nofun

theorem parseRecord_of_error {error : PolicyError} (h : normalizeDomain domain = .error error) :
    parseRecord resolver options domain raw = ⟨.error error, []⟩ := by
  rw [parseRecord, h]
  rfl

theorem parseRecord_of_ok (h : normalizeDomain domain = .ok ascii) :
    parseRecord resolver options domain raw = resolveText resolver options ascii raw := by
  rw [parseRecord, h]
  rfl

theorem parseRecord_of_malformed {reason : MalformedReason}
    (h : normalizeDomain domain = .ok ascii) (hraw : Malformed raw reason) :
    parseRecord resolver options domain raw = ⟨.error (.malformed raw reason), []⟩ := by
  rw [parseRecord_of_ok h, resolveText, parse_eq_error_iff.mpr hraw]
  rfl

/-- A malformed text is the one at hand, and that one is refused as soon as the domain is
accepted. -/
theorem outcome_eq_malformed_iff {text : String} {reason : MalformedReason} :
    (parseRecord resolver options domain raw).outcome = .error (.malformed text reason) ↔
      (∃ ascii, normalizeDomain domain = .ok ascii) ∧ text = raw ∧ Malformed raw reason := by
  constructor
  · intro h
    cases hdomain : normalizeDomain domain with
    | error error =>
      rw [parseRecord_of_error hdomain] at h
      cases h
      exact absurd hdomain normalizeDomain_ne_malformed
    | ok ascii =>
      refine ⟨⟨ascii, rfl⟩, ?_⟩
      cases hraw : parse raw with
      | error reason' =>
        have hmalformed := parse_eq_error_iff.mp hraw
        rw [parseRecord_of_malformed hdomain hmalformed] at h
        cases h
        exact ⟨rfl, hmalformed⟩
      | ok statement =>
        have hwf : WellFormed raw := exists_parse_eq_ok_iff.mp ⟨statement, hraw⟩
        obtain ⟨_, -, failure, -, hfailure⟩ := failsByLookup_parseRecord hdomain hwf _ h
        cases hfailure
  · rintro ⟨⟨ascii, hdomain⟩, rfl, hraw⟩
    rw [parseRecord_of_malformed hdomain hraw]

/-- An accepted domain with a text that is a policy fails by a lookup, where that is not
tolerated. -/
theorem exists_failure_of_wellFormed (hdomain : normalizeDomain domain = .ok ascii)
    (hraw : WellFormed raw) {error : PolicyError}
    (h : (parseRecord resolver options domain raw).outcome = .error error) :
    options.onFailure = .abort ∧
      ∃ query ∈ (parseRecord resolver options domain raw).queries, ∃ failure,
        resolver query.name query.type = .error failure ∧ error = .lookup failure := by
  refine ⟨?_, failsByLookup_parseRecord hdomain hraw error h⟩
  cases hpolicy : options.onFailure with
  | abort => rfl
  | tolerate =>
    obtain ⟨records, hrecords⟩ := exists_outcome_resolveText hpolicy hdomain hraw
    rw [parseRecord_of_ok hdomain, hrecords] at h
    cases h

/-- A text at hand fails with a reason that its domain, its text or an answer gives. -/
theorem failsJustly (resolver : Resolver) (options : ResolveOptions) (domain raw : String) :
    FailsJustly resolver options domain raw := by
  have hcases : ∀ error, (parseRecord resolver options domain raw).outcome = .error error →
      normalizeDomain domain = .error error ∨
        (∃ reason, Malformed raw reason ∧ error = .malformed raw reason) ∨
        options.onFailure = .abort ∧
          ∃ query ∈ (parseRecord resolver options domain raw).queries, ∃ failure,
            resolver query.name query.type = .error failure ∧ error = .lookup failure := by
    intro error h
    cases hdomain : normalizeDomain domain with
    | error refused =>
      rw [parseRecord_of_error hdomain] at h
      cases h
      exact Or.inl rfl
    | ok ascii =>
      refine Or.inr ?_
      cases hraw : parse raw with
      | error reason =>
        have hmalformed := parse_eq_error_iff.mp hraw
        rw [parseRecord_of_malformed hdomain hmalformed] at h
        exact Or.inl ⟨reason, hmalformed, (Except.error.inj h).symm⟩
      | ok statement =>
        exact Or.inr (exists_failure_of_wellFormed hdomain
          (exists_parse_eq_ok_iff.mp ⟨statement, hraw⟩) h)
  refine ⟨fun hpolicy ascii hdomain error => ⟨fun h => ?_, ?_⟩, hcases,
    fun text reason => outcome_eq_malformed_iff, ?_⟩
  · rcases hcases error h with hrefused | hmalformed | ⟨habort, -⟩
    · rw [hdomain] at hrefused
      cases hrefused
    · exact hmalformed
    · rw [hpolicy] at habort
      cases habort
  · rintro ⟨reason, hraw, rfl⟩
    exact outcome_eq_malformed_iff.mpr ⟨⟨ascii, hdomain⟩, rfl, hraw⟩
  · rintro ⟨reason, hraw⟩
    cases hdomain : normalizeDomain domain with
    | error refused => rw [parseRecord_of_error hdomain]
    | ok ascii => rw [parseRecord_of_malformed hdomain hraw]

/-- A version behind the verdict counts, and a text that is met on the way does not. -/
example :
    (parseRecord (Zone.resolver [⟨"b", .txt, .ok [.text "v=spf1"]⟩]) {} "a"
        "v=spf1 include:b").outcome.map (List.map (·.issues)) =
          .ok [[.malformedInclude "b" "too few tokens"]] ∧
      (parseRecord (Zone.resolver []) {} "a" "v=spf1 -all v=spf2").outcome =
        .error (.malformed "v=spf1 -all v=spf2" (.invalidVersion (some "spf2"))) := by
  decide +kernel

end Expansion

end SenderPolicy
