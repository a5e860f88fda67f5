import SenderPolicy.Policy.Statement

/-!
# Well-formed texts

Which texts are policies, said without the function that reads them: there are two tokens or more,
and the last version stated is the one there is.  `exists_parse_eq_ok_iff` says that the two agree.

Which texts are none, and why, is said of the tokens as well (`Malformed`), and
`parse_eq_error_iff` says that a text is refused for that reason and no other.

The names that a text leads to are asked of the text alone as well: they are the targets of the
clauses in front of the first `all`, in order.
-/

namespace SenderPolicy

/-- The name that a term leads to, if it leads anywhere. -/
def Term.target? : Term → Option String
  | .inclusion target => some target
  | .redirection target => some target
  | _ => none

/-- The name that a clause leads to, if it leads anywhere. -/
def Clause.target? (clause : Clause) : Option String := clause.term.target?

namespace Statement

/-- There are two tokens or more, and the last version stated is the supported one, in any
case. -/
def WellFormed (raw : String) : Prop :=
  2 ≤ (tokens raw).length ∧
    (lastVersion (allClauses raw)).any (Text.equalFold · supportedVersion) = true

instance (raw : String) : Decidable (WellFormed raw) :=
  inferInstanceAs (Decidable (_ ∧ _))

/-- The names that the clauses in front of the first `all` lead to. -/
def targets (raw : String) : List String :=
  (active (allClauses raw)).filterMap Clause.target?

theorem length_allClauses (raw : String) : (allClauses raw).length = (tokens raw).length :=
  List.length_map ..

/-- The texts that can be read are the well-formed ones. -/
theorem exists_parse_eq_ok_iff {raw : String} :
    (∃ statement, parse raw = .ok statement) ↔ WellFormed raw := by
  constructor
  · rintro ⟨statement, h⟩
    obtain ⟨hlength, hversion, hfold, -⟩ := eq_of_parse_eq_ok h
    rw [WellFormed, hversion]
    exact ⟨by rwa [← length_allClauses], hfold⟩
  · rintro ⟨hlength, hversion⟩
    obtain ⟨version, hlast, hfold⟩ := Option.any_eq_true _ _ |>.mp hversion
    have htokens : ¬(allClauses raw).length < 2 := by
      rw [length_allClauses]
      exact Nat.not_lt.mpr hlength
    refine ⟨⟨version, firstAction (allClauses raw), active (allClauses raw)⟩, ?_⟩
    rw [parse, if_neg htokens]
    simp only [hlast, hfold, if_true]

theorem clauses_of_parse_eq_ok {raw : String} {statement : Statement}
    (h : parse raw = .ok statement) : statement.clauses = active (allClauses raw) :=
  (eq_of_parse_eq_ok h).2.2.2.2

/-- A text that is read leads where its clauses lead. -/
theorem targets_of_parse_eq_ok {raw : String} {statement : Statement}
    (h : parse raw = .ok statement) :
    targets raw = statement.clauses.filterMap Clause.target? := by
  rw [targets, clauses_of_parse_eq_ok h]

example : targets "v=spf1 include:b ip4:192.0.2.1 redirect=c -all include:d" = ["b", "c"] := by
  decide

theorem not_wellFormed_of_parse_eq_error {raw : String} {reason : MalformedReason}
    (h : parse raw = .error reason) : ¬WellFormed raw := by
  intro hwf
  obtain ⟨statement, hok⟩ := exists_parse_eq_ok_iff.mpr hwf
  rw [h] at hok
  cases hok

/-! ## Why a text is refused -/

/-- The version that a token states, if it states one. -/
def versionOf? (token : String) : Option String := (Term.parse token).version?

/-- The text is no policy for the reason: it has fewer than two tokens, no token states a version,
or the last one that does states another version than the supported one. -/
inductive Malformed (raw : String) : MalformedReason → Prop where
  | tooFewTokens (hfew : (tokens raw).length < 2) : Malformed raw .tooFewTokens
  | missingVersion (htokens : 2 ≤ (tokens raw).length)
      (hnone : ∀ token ∈ tokens raw, versionOf? token = none) :
      Malformed raw (.invalidVersion none)
  | unsupportedVersion {before after : List String} {token version : String}
      (htokens : 2 ≤ (tokens raw).length) (hsplit : tokens raw = before ++ token :: after)
      (hversion : versionOf? token = some version)
      (hlast : ∀ later ∈ after, versionOf? later = none)
      (hfold : Text.equalFold version supportedVersion = false) :
      Malformed raw (.invalidVersion (some version))

theorem lastVersion_allClauses (raw : String) :
    lastVersion (allClauses raw) = (tokens raw).reverse.findSome? versionOf? := by
  rw [lastVersion, allClauses, List.filterMap_map, List.getLast?_filterMap]
  rfl

theorem lastVersion_eq_none_iff {raw : String} :
    lastVersion (allClauses raw) = none ↔ ∀ token ∈ tokens raw, versionOf? token = none := by
  rw [lastVersion_allClauses, List.findSome?_eq_none_iff]
  simp only [List.mem_reverse]

/-- The last version is stated by a token behind which no other token states one. -/
theorem lastVersion_eq_some_iff {raw version : String} :
    lastVersion (allClauses raw) = some version ↔
      ∃ before token after, tokens raw = before ++ token :: after ∧
        versionOf? token = some version ∧ ∀ later ∈ after, versionOf? later = none := by
  rw [lastVersion_allClauses, List.findSome?_eq_some_iff]
  constructor
  · rintro ⟨after, token, before, hsplit, hversion, hlast⟩
    refine ⟨before.reverse, token, after.reverse, ?_, hversion, ?_⟩
    · rw [← List.reverse_reverse (tokens raw), hsplit]
      simp
    · simpa only [List.mem_reverse] using hlast
  · rintro ⟨before, token, after, hsplit, hversion, hlast⟩
    refine ⟨after.reverse, token, before.reverse, ?_, hversion, ?_⟩
    · rw [hsplit]
      simp
    · simpa only [List.mem_reverse] using hlast

theorem Malformed.of_parse_eq_error {raw : String} {reason : MalformedReason}
    (h : parse raw = .error reason) : Malformed raw reason := by
  simp only [parse, length_allClauses] at h
  split at h
  · next hfew =>
    cases h
    exact .tooFewTokens hfew
  · next hfew =>
    have htokens := Nat.le_of_not_lt hfew
    split at h
    · next hlast =>
      cases h
      exact .missingVersion htokens (lastVersion_eq_none_iff.mp hlast)
    · next version hlast =>
      split at h
      · cases h
      · next hfold =>
        cases h
        obtain ⟨before, token, after, hsplit, hversion, hlater⟩ := lastVersion_eq_some_iff.mp hlast
        exact .unsupportedVersion htokens hsplit hversion hlater (eq_false_of_ne_true hfold)

theorem Malformed.parse_eq_error {raw : String} {reason : MalformedReason}
    (h : Malformed raw reason) : parse raw = .error reason := by
  have hfew : 2 ≤ (tokens raw).length → ¬(allClauses raw).length < 2 := by
    rw [length_allClauses]
    exact Nat.not_lt.mpr
  cases h with
  | tooFewTokens h =>
    rw [← length_allClauses] at h
    rw [parse, if_pos h]
  | missingVersion htokens hnone =>
    rw [parse, if_neg (hfew htokens), lastVersion_eq_none_iff.mpr hnone]
  | unsupportedVersion htokens hsplit hversion hlast hfold =>
    rw [parse, if_neg (hfew htokens),
      lastVersion_eq_some_iff.mpr ⟨_, _, _, hsplit, hversion, hlast⟩]
    dsimp only
    rw [hfold, if_neg Bool.false_ne_true]

/-- A text is refused for the reason that it is malformed for. -/
theorem parse_eq_error_iff {raw : String} {reason : MalformedReason} :
    parse raw = .error reason ↔ Malformed raw reason :=
  ⟨.of_parse_eq_error, Malformed.parse_eq_error⟩

end Statement

end SenderPolicy
