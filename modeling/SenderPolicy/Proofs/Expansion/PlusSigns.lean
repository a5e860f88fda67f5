import SenderPolicy.Dns.Zone
import SenderPolicy.Proofs.Expansion.Alongside
import SenderPolicy.Proofs.Policy.Qualifiers

/-!
# Resolutions of texts with plus signs

Where a plus is understood it may be written or not: the resolution is the same but for the text
that the first record shows, and for the origins that quote it.

* `Expansion.alongside_follow_of_sameTerms`: texts that say the same, in whatever words, are
  followed alike.  The words of a clause come into a walk through the origins of its addresses and
  networks and nowhere else, so two walks are compared with everything else equal
  (`Findings.Alike`).
* `parse_plus_and_alongside_of_plusWritten`: the law for tokens (`Term.parse_plus`), and what it
  comes to for records.
* `not_forall_parse_plus_eq`: it is no law for mechanisms of all kinds, and a record can lose what
  it authorises.
-/

namespace SenderPolicy

/-! ## What is found -/

/-- Findings that differ in where their addresses and networks come from, and in nothing else. -/
structure Findings.Alike (f f' : Findings) : Prop where
  entries : f'.entries = f.entries
  addresses : f'.addresses.map (·.address) = f.addresses.map (·.address)
  networks : f'.networks.map (·.network) = f.networks.map (·.network)
  issues : f'.issues = f.issues
  explanation : f'.explanation = f.explanation
  nested : f'.nested = f.nested

/-- Records of texts that say the same: they differ in the texts and in where their addresses and
networks come from, and in nothing else. -/
structure PolicyRecord.Alike (record record' : PolicyRecord) : Prop where
  same : { record' with
    raw := record.raw, addresses := record.addresses, networks := record.networks } = record
  addresses : record'.addresses.map (·.address) = record.addresses.map (·.address)
  networks : record'.networks.map (·.network) = record.networks.map (·.network)

/-- Records that are alike authorise the same addresses. -/
theorem PolicyRecord.Alike.contains_eq {record record' : PolicyRecord} (h : record.Alike record')
    (address : Address) : record'.contains address = record.contains address := by
  have haddresses := congrArg (List.any · (· == address)) h.addresses
  have hnetworks := congrArg (List.any · (·.contains address)) h.networks
  simp only [List.any_map] at haddresses hnetworks
  exact congrArg₂ (· || ·) haddresses hnetworks

namespace Findings

theorem alike_refl (f : Findings) : f.Alike f := ⟨rfl, rfl, rfl, rfl, rfl, rfl⟩

theorem Alike.append {f f' g g' : Findings} (hf : f.Alike f') (hg : g.Alike g') :
    (f ++ g).Alike (f' ++ g') where
  entries := congrArg₂ _ hf.entries hg.entries
  addresses := by
    have happend (x y : Findings) : (x ++ y).addresses = x.addresses ++ y.addresses := rfl
    rw [happend, happend, List.map_append, List.map_append, hf.addresses, hg.addresses]
  networks := by
    have happend (x y : Findings) : (x ++ y).networks = x.networks ++ y.networks := rfl
    rw [happend, happend, List.map_append, List.map_append, hf.networks, hg.networks]
  issues := congrArg₂ _ hf.issues hg.issues
  explanation := congrArg₂ (fun x y : Option String => x <|> y) hf.explanation hg.explanation
  nested := congrArg₂ _ hf.nested hg.nested

theorem alike_join_map {α : Type} {find find' : α → Findings}
    (h : ∀ a, (find a).Alike (find' a)) (as : List α) :
    (join (as.map find)).Alike (join (as.map find')) := by
  induction as with
  | nil => exact alike_refl empty
  | cons a as ih => exact (h a).append ih

end Findings

namespace Expansion

open Statement

variable {resolver : Resolver} {options : ResolveOptions} {site : Site} {token token' : String}

/-- Two walks that find alike. -/
abbrev FindAlike : Walk Findings → Walk Findings → Prop := Alongside Findings.Alike

theorem alike_ofAddress (site : Site) (origin origin' : String) (mask : HostMask)
    (address : Address) :
    (ofAddress site origin mask address).Alike (ofAddress site origin' mask address) := by
  rw [ofAddress, ofAddress]
  cases mask.lengthFor address.family with
  | none => exact ⟨rfl, rfl, rfl, rfl, rfl, rfl⟩
  | some length =>
    dsimp only
    cases Network.mask address length true with
    | ok network => exact ⟨rfl, rfl, rfl, rfl, rfl, rfl⟩
    | error reason => exact Findings.alike_refl _

theorem findAlike_atHost (mask : HostMask) (host : String) :
    FindAlike (atHost resolver options site token mask host)
      (atHost resolver options site token' mask host) := by
  refine Alongside.tolerating (Traced.alongside_refl (fun _ => rfl) _)
    (fun failure => Findings.alike_refl _) ?_
  rintro addresses _ - - rfl
  exact alongside_pure (Findings.alike_join_map (alike_ofAddress site _ _ mask) addresses)

/-- Rows of walks that find alike one by one find alike together. -/
theorem findAlike_join_mapM {α : Type} {R : α → α → Prop} {find find' : α → Walk Findings}
    (h : ∀ a a', R a a' → FindAlike (find a) (find' a')) {as as' : List α}
    (has : List.Forall₂ R as as') :
    FindAlike (Findings.join <$> as.mapM find) (Findings.join <$> as'.mapM find') := by
  induction has with
  | nil =>
    rw [List.mapM_nil, List.mapM_nil, map_pure]
    exact alongside_pure (Findings.alike_refl _)
  | cons ha _ ih =>
    rw [Findings.join_mapM_cons, Findings.join_mapM_cons]
    exact (h _ _ ha).bind fun f f' hf => ih.map fun g g' hg => hf.append hg

theorem findAlike_atMailHosts (mask : HostMask) (domain : String) :
    FindAlike (atMailHosts resolver options site token mask domain)
      (atMailHosts resolver options site token' mask domain) := by
  refine Alongside.tolerating (Traced.alongside_refl (fun _ => rfl) _)
    (fun failure => Findings.alike_refl _) ?_
  rintro hosts _ - - rfl
  rw [← map_eq_pure_bind, ← map_eq_pure_bind]
  refine findAlike_join_mapM ?_ (List.forall₂_same.mpr fun host _ => Eq.refl host)
  rintro host _ rfl
  exact findAlike_atHost mask host

/-- Clauses that say the same find alike. -/
theorem findAlike_ofClause (expand : Site → String → Walk Findings) (term : Term) :
    FindAlike (ofClause resolver options expand site ⟨token, term⟩)
      (ofClause resolver options expand site ⟨token', term⟩) := by
  have hrefl : ∀ walk : Walk Findings, FindAlike walk walk := alongside_refl Findings.alike_refl
  refine rel_ofClause_of_term ?_ ?_ findAlike_atHost findAlike_atMailHosts ?_ ?_
  · exact fun f _ _ => hrefl (pure f)
  · exact fun tag value walk walk' h => h.bind fun f f' hf =>
      alongside_pure ((Findings.alike_refl _).append hf)
  · exact fun target => hrefl _
  · exact fun target _ => hrefl _

/-- The first records are alike and authorise the same addresses, and the others are the same. -/
inductive ResultsAlike : List PolicyRecord → List PolicyRecord → Prop where
  | intro {first first' : PolicyRecord} {rest : List PolicyRecord} (halike : first.Alike first')
      (hcontains : ∀ address, first'.contains address = first.contains address) :
      ResultsAlike (first :: rest) (first' :: rest)

/-- Texts that say the same are followed alike. -/
theorem alongside_follow_of_sameTerms (expand : Site → String → Walk Findings) (raw raw' : String)
    (statement : Statement) {clauses' : List Clause} (h : SameTerms statement.clauses clauses') :
    Alongside ResultsAlike (follow resolver options expand site raw statement)
      (follow resolver options expand site raw' { statement with clauses := clauses' }) := by
  have hclauses : FindAlike
      (Findings.join <$> statement.clauses.mapM (ofClause resolver options expand site))
      (Findings.join <$> clauses'.mapM (ofClause resolver options expand site)) := by
    refine findAlike_join_mapM ?_ h
    rintro ⟨token, term⟩ ⟨token', _⟩ rfl
    exact findAlike_ofClause expand _
  have hliterals : clauses'.filterMap Literal.ofClause? =
      statement.clauses.filterMap Literal.ofClause? :=
    h.filterMap_eq fun term => Literal.ofClause? ⟨"", term⟩
  rw [follow_eq_join, follow_eq_join]
  refine (alongside_modify _).bind fun _ _ _ => hclauses.bind fun f f' hf => alongside_pure ?_
  have halike : (record site raw statement f).Alike
      (record site raw' { statement with clauses := clauses' } f') := by
    constructor
    · simp only [record, hf.entries, hf.issues, hf.explanation]
    · simp only [record, hliterals, List.map_append, hf.addresses]
    · simp only [record, hliterals, List.map_append, hf.networks]
  rw [hf.nested]
  exact .intro halike halike.contains_eq

end Expansion

/-! ## Results -/

open Statement Expansion

/-- Texts that say the same have results that are alike. -/
theorem alongside_parseRecord_of_sameTerms (resolver : Resolver) (options : ResolveOptions)
    (domain : String) {raw raw' : String} (h : SameTerms (allClauses raw) (allClauses raw'))
    (hraw : WellFormed raw) :
    Traced.Alongside ResultsAlike (parseRecord resolver options domain raw)
      (parseRecord resolver options domain raw') := by
  obtain ⟨statement, hparse⟩ := exists_parse_eq_ok_iff.mpr hraw
  obtain ⟨clauses', hparse', hclauses⟩ := h.parse_eq hparse
  refine (Traced.alongside_refl (fun _ => rfl) (Traced.ofExcept (normalizeDomain domain))).bind ?_
  rintro ascii _ rfl
  rw [resolveText, resolveText, hparse, hparse']
  exact ((alongside_follow_of_sameTerms _ raw raw' statement hclauses []).map
    fun _ _ h => h.1).mapError _

/-- A plus is understood in front of `a`, `mx` and `all`, and makes anything else without a
qualifier nothing in particular.  So where it is written in front of the former only, a text is
well formed as it was, the same questions are asked, and there is the same error or the same
records.  The first of them shows the other text and the other origins, and authorises the same
addresses. -/
theorem parse_plus_and_alongside_of_plusWritten (token : String) (resolver : Resolver)
    (options : ResolveOptions) (domain raw raw' : String) :
    (Unqualified token → Term.parse ("+" ++ token) =
      if (Term.parse token).takesPlus then Term.parse token else .unknown) ∧
    (PlusWritten Term.takesPlus raw raw' → (WellFormed raw' ↔ WellFormed raw) ∧
      (WellFormed raw → Traced.Alongside ResultsAlike (parseRecord resolver options domain raw)
        (parseRecord resolver options domain raw'))) := by
  refine ⟨Term.parse_plus, fun hwritten => ?_⟩
  have hsame := hwritten.sameTerms
  exact ⟨hsame.wellFormed_iff, alongside_parseRecord_of_sameTerms resolver options domain hsame⟩

/-- A host, an exchange under a mask and an `all`, with and without signs; and an address that
is nothing behind one. -/
theorem parse_plus_and_alongside_of_zone :
    let resolver := Zone.resolver
      [⟨"a", .a, .ok [.address (.ofNat .v4 0xC0000201)]⟩, ⟨"a", .mx, .ok [.name "a"]⟩]
    Unqualified "MX/24" ∧
      Term.parse "+MX/24" = .host .mx none (.lengths (some 24) (some 24)) "/24" ∧
      Unqualified "ip4:192.0.2.1" ∧ Term.parse "+ip4:192.0.2.1" = .unknown ∧
      PlusWritten Term.takesPlus "v=spf1 a mx/24 ip4:192.0.2.1 all"
        "v=spf1 +a +mx/24  ip4:192.0.2.1 +all" ∧
      WellFormed "v=spf1 a mx/24 ip4:192.0.2.1 all" ∧
      Traced.Alongside ResultsAlike
        (parseRecord resolver {} "a" "v=spf1 a mx/24 ip4:192.0.2.1 all")
        (parseRecord resolver {} "a" "v=spf1 +a +mx/24  ip4:192.0.2.1 +all") := by
  intro resolver
  have hmx : Unqualified "MX/24" := by decide
  have hip4 : Unqualified "ip4:192.0.2.1" := by decide
  have hwritten : PlusWritten Term.takesPlus "v=spf1 a mx/24 ip4:192.0.2.1 all"
      "v=spf1 +a +mx/24  ip4:192.0.2.1 +all" := by decide
  have hwf : WellFormed "v=spf1 a mx/24 ip4:192.0.2.1 all" := by decide
  have happlied := fun token => parse_plus_and_alongside_of_plusWritten token resolver {} "a"
    "v=spf1 a mx/24 ip4:192.0.2.1 all" "v=spf1 +a +mx/24  ip4:192.0.2.1 +all"
  obtain ⟨hplusMx, hrecords⟩ := happlied "MX/24"
  obtain ⟨hplusIp4, -⟩ := happlied "ip4:192.0.2.1"
  exact ⟨hmx, (hplusMx hmx).trans (by decide), hip4, (hplusIp4 hip4).trans (by decide), hwritten,
    hwf, (hrecords hwritten).2 hwf⟩

/-- In front of an `ip4` a plus is not understood.  So it makes a mechanism nothing in particular,
and the record authorises the address no more. -/
theorem not_forall_parse_plus_eq :
    (¬∀ token, Unqualified token → (Term.parse token).isMechanism = true →
      Term.parse ("+" ++ token) = Term.parse token) ∧
    ¬∀ resolver options domain raw raw', PlusWritten Term.isMechanism raw raw' →
      ∀ records records', (parseRecord resolver options domain raw).outcome = .ok records →
        (parseRecord resolver options domain raw').outcome = .ok records' →
        List.Forall₂ (fun record record' => ∀ address,
          record'.contains address = record.contains address) records records' := by
  constructor
  · intro h
    exact absurd (h "ip4:192.0.2.1" (by decide) (by decide)) (by decide)
  · intro h
    have hrecord := h (Zone.resolver []) {} "a" "v=spf1 ip4:192.0.2.1" "v=spf1 +ip4:192.0.2.1"
      (by decide)
      [{ domain := "a", source := "a", raw := "v=spf1 ip4:192.0.2.1", version := "spf1", depth := 0
         action := .neutral, entries := [⟨"a", "a", .ip4, "192.0.2.1"⟩]
         addresses := [⟨"a", .ofNat .v4 0xC0000201⟩], networks := [], explanation := none
         issues := [] }]
      [{ domain := "a", source := "a", raw := "v=spf1 +ip4:192.0.2.1", version := "spf1", depth := 0
         action := .neutral, entries := [], addresses := [], networks := [], explanation := none
         issues := [] }]
      (outcome_parseRecord_eq_ok.mpr ⟨"a", ⟨"spf1", .neutral, [⟨"v=spf1", .version "spf1"⟩,
        ⟨"ip4:192.0.2.1", .literal .v4 "192.0.2.1"⟩]⟩, rfl, by decide +kernel, by decide +kernel⟩)
      (outcome_parseRecord_eq_ok.mpr ⟨"a", ⟨"spf1", .neutral, [⟨"v=spf1", .version "spf1"⟩,
        ⟨"+ip4:192.0.2.1", .unknown⟩]⟩, rfl, by decide +kernel, by decide +kernel⟩)
    cases hrecord with
    | cons hcontains => exact absurd (hcontains (.ofNat .v4 0xC0000201)) (by decide)

end SenderPolicy
