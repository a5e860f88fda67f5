import SenderPolicy.Proofs.Policy.LetterCase
import SenderPolicy.Proofs.Policy.WellFormed

/-!
# Plus signs in front of mechanisms

`+` is the qualifier that a mechanism has without one, so writing it out should change nothing.  It
changes nothing in front of `a`, `mx` and `all`; anything else is nothing in particular behind it.

* `Term.parse_plus`: both halves of this for tokens.
* `Statement.PlusWritten.sameTerms`, `Statement.SameTerms.parse_eq`: a text with plus signs in front
  of some of its `a`, `mx` and `all` says the same token by token, and states the same.
-/

namespace SenderPolicy

/-! ## Tokens -/

/-- The signs that can qualify a mechanism. -/
def isQualifier (c : Char) : Bool := c = '+' || c = '-' || c = '~' || c = '?'

theorem isAlpha_of_isQualifier {c : Char} (h : isQualifier c = true) : c.isAlpha = false := by
  simp only [isQualifier, Bool.or_eq_true, decide_eq_true_eq] at h
  rcases h with ((rfl | rfl) | rfl) | rfl <;> decide

/-- The token has no qualifier in front. -/
def Unqualified (token : String) : Prop := token.toList.head?.any isQualifier = false

instance (token : String) : Decidable (Unqualified token) :=
  inferInstanceAs (Decidable (_ = false))

namespace Term

/-- Whether the term is a mechanism, which can have a qualifier. -/
def isMechanism : Term → Bool
  | literal _ _ | inclusion _ | host _ _ _ _ | existsTest _ | pointer _ | all _ => true
  | version _ | redirection _ | explanation _ | unknown => false

/-- Whether a plus is understood in front of the term. -/
def takesPlus : Term → Bool
  | host _ _ _ _ | all _ => true
  | _ => false

variable {cs : List Char} {term : Term}

/-- A mechanism that a plus is understood in front of is the same behind one. -/
theorem Reads.plus (h : Reads cs term) (hcs : cs.head?.any isQualifier = false)
    (hplus : term.takesPlus = true) : Reads ('+' :: cs) term := by
  cases h with
  | keyword hmem =>
    have hnone : ∀ pair ∈ keywords, ∀ value, (pair.2 value).takesPlus = false := by
      simp [keywords, takesPlus]
    rw [hnone _ hmem] at hplus
    cases hplus
  | @whole spelling term hmem hspelling =>
    -- of the terms that a token is as a whole, `ptr` takes no plus, and all but `all` have a
    -- qualifier
    have hall : ∀ pair ∈ fixed, pair.2.takesPlus = true →
        pair = ("all", .all .pass) ∨ pair.1.toList.head?.any isQualifier = true := by
      decide
    rcases hall _ hmem hplus with heq | hqualified
    · obtain ⟨rfl, rfl⟩ := Prod.mk.inj heq
      exact @Reads.whole _ "+all" _ (by decide) (congrArg ('+' :: ·) hspelling)
    · obtain ⟨c, hc, hqualifier⟩ := (Option.any_eq_true ..).mp hqualified
      rw [← hspelling, Text.head?_map_toLower (isAlpha_of_isQualifier hqualifier)] at hc
      rw [hc] at hcs
      exact absurd hqualifier (Bool.eq_false_iff.mp hcs)
  | @host kind qualifier name rest value hsplit hqualifier hname hvalue =>
    rcases hqualifier with rfl | rfl
    · exact @Reads.host _ kind ['+'] name rest value (by rw [hsplit]; rfl) (Or.inr rfl) hname hvalue
    · rw [hsplit] at hcs
      cases hcs

/-- What is behind a plus is a mechanism that a plus is understood in front of. -/
theorem Reads.behind_plus (h : Reads ('+' :: cs) term) :
    Reads cs term ∧ term.takesPlus = true := by
  cases h with
  | @keyword keyword make head value hmem hsplit hhead =>
    have hnone : ∀ keyword ∈ keywords.map Prod.fst,
        keyword.toList ≠ [] ∧ keyword.toList.head? ≠ some '+' := by decide
    obtain ⟨hne, hsign⟩ := hnone keyword (List.mem_map_of_mem hmem)
    cases head with
    | nil => exact absurd hhead.symm hne
    | cons c head =>
      obtain rfl : '+' = c := (List.cons.inj hsplit).1
      exact absurd (congrArg List.head? hhead).symm hsign
  | @whole spelling term hmem hspelling =>
    have hall : ∀ pair ∈ fixed, pair.1.toList.head? = some '+' →
        pair = ("+all", .all .pass) := by
      decide
    obtain ⟨rfl, rfl⟩ := Prod.mk.inj (hall _ hmem (congrArg List.head? hspelling).symm)
    exact ⟨@Reads.whole _ "all" _ (by decide) (List.cons.inj hspelling).2, rfl⟩
  | @host kind qualifier name rest value hsplit hqualifier hname hvalue =>
    rcases hqualifier with rfl | rfl
    · -- no name begins with a plus
      cases name with
      | nil => cases kind <;> cases hname
      | cons c name =>
        obtain rfl : '+' = c := (List.cons.inj hsplit).1
        cases kind <;> cases hname
    · exact ⟨@Reads.host _ kind [] name rest value (List.cons.inj hsplit).2 (Or.inl rfl) hname
        hvalue, rfl⟩

/-- Behind a plus a token is the mechanism that it is without, if a plus is understood in front of
that, and nothing in particular otherwise. -/
theorem parse_plus {token : String} (h : Unqualified token) :
    parse ("+" ++ token) = if (parse token).takesPlus then parse token else unknown := by
  have hplus : ("+" ++ token).toList = '+' :: token.toList := by
    rw [String.toList_append]
    rfl
  rw [parse, parse, hplus]
  split
  · next htakes =>
    have hknown : ofChars token.toList ≠ unknown := by
      intro hunknown
      rw [hunknown] at htakes
      cases htakes
    have hreads : Reads token.toList (ofChars token.toList) := (ofChars_eq_iff hknown).mp rfl
    exact (ofChars_eq_iff hknown).mpr (hreads.plus h htakes)
  · next htakes =>
    refine ofChars_eq_unknown_iff.mpr fun term hreads => htakes ?_
    obtain ⟨hbehind, hterm⟩ := hreads.behind_plus
    rwa [ofChars_of_reads hbehind]

end Term

/-! ## Texts -/

namespace Statement

/-- The second text has the tokens of the first one in their order, some of them behind a plus.
Those have no qualifier and are terms of the kind. -/
def PlusWritten (kind : Term → Bool) (raw raw' : String) : Prop :=
  List.Forall₂ (fun token token' => token' = token ∨
      Unqualified token ∧ kind (Term.parse token) = true ∧ token' = "+" ++ token)
    (tokens raw) (tokens raw')

instance (kind : Term → Bool) (raw raw' : String) : Decidable (PlusWritten kind raw raw') :=
  inferInstanceAs (Decidable (List.Forall₂ _ _ _))

/-- The clauses say the same, one by one. -/
abbrev SameTerms : List Clause → List Clause → Prop :=
  List.Forall₂ fun clause clause' => clause'.term = clause.term

variable {raw raw' : String} {clauses clauses' : List Clause}

/-- A plus where it is understood does not change what a text says. -/
theorem PlusWritten.sameTerms (h : PlusWritten Term.takesPlus raw raw') :
    SameTerms (allClauses raw) (allClauses raw') := by
  rw [allClauses, allClauses, SameTerms, List.forall₂_map_left_iff, List.forall₂_map_right_iff]
  refine h.imp fun token token' htoken => ?_
  rcases htoken with rfl | ⟨hfree, htakes, rfl⟩
  · rfl
  · dsimp only
    rw [Term.parse_plus hfree, if_pos htakes]

theorem SameTerms.filterMap_eq {α : Type} (h : SameTerms clauses clauses') (f : Term → Option α) :
    clauses'.filterMap (f ·.term) = clauses.filterMap (f ·.term) := by
  induction h with
  | nil => rfl
  | cons hterm _ ih => simp only [List.filterMap_cons, hterm, ih]

theorem SameTerms.active (h : SameTerms clauses clauses') :
    SameTerms (active clauses) (active clauses') := by
  induction h with
  | nil => exact .nil
  | @cons clause clause' _ _ hterm _ ih =>
    rw [Statement.active, Statement.active, List.takeWhile_cons, List.takeWhile_cons, hterm]
    cases clause.term.isAll with
    | true => exact .nil
    | false => exact .cons hterm ih

theorem SameTerms.lastVersion_eq (h : SameTerms clauses clauses') :
    lastVersion clauses' = lastVersion clauses :=
  congrArg List.getLast? (h.filterMap_eq Term.version?)

theorem SameTerms.firstAction_eq (h : SameTerms clauses clauses') :
    firstAction clauses' = firstAction clauses := by
  rw [firstAction, firstAction, h.filterMap_eq Term.action?]

/-- Texts that say the same are well formed alike. -/
theorem SameTerms.wellFormed_iff (h : SameTerms (allClauses raw) (allClauses raw')) :
    WellFormed raw' ↔ WellFormed raw := by
  rw [WellFormed, WellFormed, ← length_allClauses, ← length_allClauses, h.length_eq,
    h.lastVersion_eq]

/-- Texts that say the same state the same, in clauses that say the same. -/
theorem SameTerms.parse_eq (h : SameTerms (allClauses raw) (allClauses raw'))
    {statement : Statement} (hraw : parse raw = .ok statement) :
    ∃ clauses', parse raw' = .ok { statement with clauses := clauses' } ∧
      SameTerms statement.clauses clauses' := by
  have hwf : WellFormed raw' := h.wellFormed_iff.mpr (exists_parse_eq_ok_iff.mp ⟨statement, hraw⟩)
  obtain ⟨statement', hraw'⟩ := exists_parse_eq_ok_iff.mpr hwf
  obtain ⟨-, hversion, -, haction, hclauses⟩ := eq_of_parse_eq_ok hraw
  obtain ⟨-, hversion', -, haction', hclauses'⟩ := eq_of_parse_eq_ok hraw'
  have hsame : statement' = { statement with clauses := statement'.clauses } := by
    rw [h.lastVersion_eq, hversion] at hversion'
    rw [h.firstAction_eq, ← haction] at haction'
    rw [Statement.mk.injEq]
    exact ⟨(Option.some.inj hversion').symm, haction', rfl⟩
  refine ⟨statement'.clauses, hraw'.trans (congrArg Except.ok hsame), ?_⟩
  rw [hclauses, hclauses']
  exact h.active

end Statement

end SenderPolicy
