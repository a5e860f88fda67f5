import Mathlib.Logic.Relation
import SenderPolicy.Proofs.Expansion.Accounting
import SenderPolicy.Proofs.Expansion.Coverage
import SenderPolicy.Proofs.Expansion.Preorder
import SenderPolicy.Proofs.Expansion.Siblings

/-!
# Two limits on the depth

A resolution with a larger limit follows more names, and it may expand a name that both resolutions
reach at another place, deeper than the one with the smaller limit does.  What the name leads to is
then at another depth as well, and may be too deep.  So a larger limit can cost records.

* `exists_key_eq_or_cutOff`: a name is lost only if an ancestor of its record, or the record itself,
  was cut off by the limit, or was expanded under a spelling that publishes other policies.
* `not_forall_kept`: names are lost in both ways.

Of the two resolutions one is read downwards, from the root to a record, and the other one clause by
clause: if a record has a twin there, which is a record of the same text, then the outcomes of the
twin tell what became of the names that the record leads to (`Resolved.kept_or_cutOff_of_leads`).
No step compares depths or orders of expansion, so it does not matter which of the limits is the
larger one.
-/

namespace SenderPolicy

namespace Expansion

variable {resolver : Resolver} {options options' : ResolveOptions} {visits visits' : List Visit}

/-! ## What loses a name -/

/-- One of the records leads to the name, which is deeper than the limit allows. -/
def CutOff (limit : Nat) (records : List PolicyRecord) (name : String) : Prop :=
  ∃ record ∈ records, .depthExceeded name (limit + 1) ∈ record.issues

/-- One of the records is under the key of the name, and under a spelling of it that publishes other
policies than the name does. -/
def Respelt (resolver : Resolver) (records : List PolicyRecord) (name : String) : Prop :=
  ∃ record ∈ records, Name.key record.source = Name.key name ∧
    resolver.policiesAt record.source ≠ resolver.policiesAt name

/-- One of the records is under the key of the name. -/
def Kept (records : List PolicyRecord) (name : String) : Prop :=
  ∃ record ∈ records, Name.key record.source = Name.key name

/-! ## Twins -/

/-- What a visit leads to is one of the texts that its name publishes. -/
theorem Visit.LedTo.published {parent child : Visit} {step : Step} {target : String}
    {texts : List String} (h : parent.LedTo resolver step target texts child) :
    child.record.source = target ∧ resolver.policiesAt target = texts ∧
      child.record.raw ∈ texts := by
  obtain ⟨clause, raw, -, -, -, htexts, hraw, -, hsite, hchild⟩ := h
  refine ⟨congrArg Site.source hsite, ?_, ?_⟩
  · rw [Resolver.policiesAt, htexts]
  · rw [hchild]
    exact List.mem_of_getElem? hraw

/-- All well-formed policies of a name are read, if one of them is and the name is not that of the
first record. -/
theorem Resolved.exists_raw_eq_of_mem_tail (h : Resolved resolver options visits) {visit : Visit}
    (hvisit : visit ∈ visits.tail) {raw : String}
    (hraw : raw ∈ resolver.policiesAt visit.record.source) (hwf : Statement.WellFormed raw) :
    ∃ twin ∈ visits, twin.record.raw = raw := by
  obtain ⟨parent, hparent, step, target, texts, hled⟩ := h.exists_leads visit hvisit
  obtain ⟨rfl, rfl, -⟩ := hled.published
  obtain ⟨clause, -, hclause, htarget, houtcome, -⟩ := hled
  obtain ⟨outcome, houtcome', hholds, -⟩ := (h.became parent hparent).exists_holds hclause htarget
  obtain rfl := Option.some.inj (Option.some.inj (houtcome.symm.trans houtcome'))
  obtain ⟨-, -, hchildren⟩ := hholds
  obtain ⟨k, hk⟩ := List.mem_iff_getElem?.mp hraw
  obtain ⟨twin, htwin, -, -, htwinRaw⟩ := hchildren k raw hk hwf
  exact ⟨twin, htwin, htwinRaw⟩

section

variable {first first' : Visit} {below below' : List Visit}

/-- The texts of a name that is kept are read again, unless the name is respelt. -/
theorem Resolved.exists_raw_eq_of_kept (h : Resolved resolver options (first :: below))
    (h' : Resolved resolver options' (first' :: below')) (hkey : first.key = first'.key)
    (hraw : first.record.raw = first'.record.raw) {visit : Visit}
    (hvisit : visit ∈ first :: below)
    (hkept : Kept ((first' :: below').map (·.record)) visit.record.source) :
    (∃ twin ∈ first' :: below', twin.record.raw = visit.record.raw) ∨
      Respelt resolver ((first' :: below').map (·.record)) visit.record.source := by
  obtain ⟨record, hrecord, hother⟩ := hkept
  obtain ⟨other, hmem, rfl⟩ := List.mem_map.mp hrecord
  replace hother : other.key = visit.key := hother
  rcases List.mem_cons.mp hvisit with rfl | hbelow
  · -- the key of the first record is that of no other one
    rcases List.mem_cons.mp hmem with rfl | hbelow'
    · exact Or.inl ⟨other, List.mem_cons_self .., hraw.symm⟩
    · exact absurd (hother.trans hkey) (h'.key_ne_of_mem_tail first' rfl other hbelow')
  · rcases List.mem_cons.mp hmem with rfl | hbelow'
    · exact absurd (hother.symm.trans hkey.symm) (h.key_ne_of_mem_tail first rfl visit hbelow)
    · by_cases hpolicies : resolver.policiesAt other.record.source =
          resolver.policiesAt visit.record.source
      · obtain ⟨parent, -, step, target, texts, hled⟩ := h.exists_leads visit hbelow
        obtain ⟨rfl, rfl, hvisitRaw⟩ := hled.published
        rw [← hpolicies] at hvisitRaw
        exact Or.inl (h'.exists_raw_eq_of_mem_tail hbelow' hvisitRaw (h.wellFormed hvisit))
      · exact Or.inr ⟨other.record, hrecord, hother, hpolicies⟩

/-- What a text leads to in one resolution, it leads to in the other one as well, or is cut off
there by the limit. -/
theorem Resolved.kept_or_cutOff_of_leads (h : Resolved resolver options visits)
    (h' : Resolved resolver options' visits') {parent child twin : Visit} (hchild : child ∈ visits)
    (hleads : parent.Leads resolver child) (htwin : twin ∈ visits')
    (hraw : twin.record.raw = parent.record.raw) :
    Kept (visits'.map (·.record)) child.record.source ∨
      CutOff options'.maxDepth (visits'.map (·.record)) child.record.source := by
  obtain ⟨step, target, texts, hled⟩ := hleads
  obtain ⟨rfl, -, hmem⟩ := hled.published
  obtain ⟨clause, raw, hclause, htarget, -, htexts, -⟩ := hled
  rw [← hraw] at hclause
  obtain ⟨outcome, -, hholds, hissues⟩ := (h'.became twin htwin).exists_holds hclause htarget
  cases outcome with
  | cycle =>
    obtain ⟨visit, hvisit, hkey⟩ := List.mem_map.mp hholds
    exact Or.inl ⟨visit.record, List.mem_map_of_mem hvisit, hkey⟩
  | tooDeep =>
    have hdepth : twin.record.depth = options'.maxDepth := hholds
    refine Or.inr ⟨twin.record, List.mem_map_of_mem htwin, hissues _ ?_⟩
    rw [← hdepth]
    exact List.mem_singleton_self _
  | failed failure =>
    have hfailure := htexts.symm.trans hholds.2
    cases hfailure
  | missing =>
    obtain rfl := Except.ok.inj (htexts.symm.trans hholds)
    cases hmem
  | answered texts' =>
    obtain ⟨-, htexts', hchildren⟩ := hholds
    obtain rfl := Except.ok.inj (htexts.symm.trans htexts')
    obtain ⟨k, hk⟩ := List.mem_iff_getElem?.mp hmem
    obtain ⟨visit, hvisit, -, hsite, -⟩ := hchildren k _ hk (h.wellFormed hchild)
    have hsource : visit.record.source = child.record.source := congrArg Site.source hsite
    exact Or.inl ⟨visit.record, List.mem_map_of_mem hvisit, congrArg Name.key hsource⟩

/-- If two resolutions start from one text, then what is under a key in one of them is so in the
other one, unless an ancestor has been lost there to the limit or to a spelling. -/
theorem Resolved.kept_or_excused (h : Resolved resolver options (first :: below))
    (h' : Resolved resolver options' (first' :: below')) (hkey : first.key = first'.key)
    (hraw : first.record.raw = first'.record.raw) :
    ∀ visit ∈ first :: below,
      Kept ((first' :: below').map (·.record)) visit.record.source ∨
        ∃ ancestor ∈ first :: below,
          Relation.ReflTransGen (LeadsAmong resolver (first :: below)) ancestor visit ∧
            (CutOff options'.maxDepth ((first' :: below').map (·.record)) ancestor.record.source ∨
              Respelt resolver ((first' :: below').map (·.record)) ancestor.record.source) := by
  refine h.forall_of_leads ?_ ?_
  · intro root hroot
    obtain rfl := Option.some.inj hroot
    exact Or.inl ⟨first'.record, List.mem_map_of_mem (List.mem_cons_self ..), hkey.symm⟩
  · intro parent hparent child hchild hleads ih
    have hstep : LeadsAmong resolver (first :: below) parent child := ⟨hparent, hchild, hleads⟩
    rcases ih with hkept | ⟨ancestor, hancestor, hdescent, hexcuse⟩
    · rcases h.exists_raw_eq_of_kept h' hkey hraw hparent hkept with ⟨twin, htwin, heq⟩ | hrespelt
      · refine (h.kept_or_cutOff_of_leads h' hchild hleads htwin heq).imp_right fun hcut => ?_
        exact ⟨child, hchild, .refl, Or.inl hcut⟩
      · exact Or.inr ⟨parent, hparent, .single hstep, Or.inr hrespelt⟩
    · exact Or.inr ⟨ancestor, hancestor, hdescent.tail hstep, hexcuse⟩

end

/-! ## Results -/

/-- Two results for one text with different limits have records under the same keys, except where an
ancestor was cut off by the limit, or expanded under another spelling. -/
theorem exists_key_eq_or_cutOff (options : ResolveOptions) (limit limit' : Nat)
    {domain ascii raw : String} (hdomain : normalizeDomain domain = .ok ascii)
    (hraw : Statement.WellFormed raw) (hpolicy : options.onFailure = .tolerate) :
    ∃ visits records',
      Resolved resolver { options with maxDepth := limit } visits ∧
      (parseRecord resolver { options with maxDepth := limit } domain raw).outcome =
        .ok (visits.map (·.record)) ∧
      (parseRecord resolver { options with maxDepth := limit' } domain raw).outcome =
        .ok records' ∧
      ∀ visit ∈ visits, Kept records' visit.record.source ∨
        ∃ ancestor ∈ visits, Relation.ReflTransGen (LeadsAmong resolver visits) ancestor visit ∧
          (CutOff limit' records' ancestor.record.source ∨
            Respelt resolver records' ancestor.record.source) := by
  obtain ⟨statement, hstatement⟩ := Statement.exists_parse_eq_ok_iff.mpr hraw
  obtain ⟨outcomes, below, visited, hcourse, hrecords⟩ :=
    exists_course_of_tolerate resolver { options with maxDepth := limit } hpolicy hdomain hstatement
  obtain ⟨outcomes', below', visited', hcourse', hrecords'⟩ :=
    exists_course_of_tolerate resolver { options with maxDepth := limit' } hpolicy hdomain
      hstatement
  have hvisits := Resolved.root hstatement hcourse
  have hvisits' := Resolved.root hstatement hcourse'
  exact ⟨_, _, hvisits, hrecords, hrecords', hvisits.kept_or_excused hvisits' rfl rfl⟩

/-! ## Two zones -/

/-- A zone in which two ways lead from "a" to "x", and a longer one comes first. -/
def shortcut : Zone :=
  [⟨"p", .txt, .ok [.text "v=spf1 include:q"]⟩, ⟨"q", .txt, .ok [.text "v=spf1 include:x"]⟩,
    ⟨"x", .txt, .ok [.text "v=spf1 include:y"]⟩, ⟨"y", .txt, .ok [.text "v=spf1 -all"]⟩]

/-- The same with another policy where the longer way ends, which is at another spelling of "x". -/
def respeltShortcut : Zone :=
  [⟨"p", .txt, .ok [.text "v=spf1 include:q"]⟩, ⟨"q", .txt, .ok [.text "v=spf1 include:X"]⟩,
    ⟨"X", .txt, .ok [.text "v=spf1 -all"]⟩, ⟨"x", .txt, .ok [.text "v=spf1 include:y"]⟩,
    ⟨"y", .txt, .ok [.text "v=spf1 -all"]⟩]

/-- At the larger limit the longer way ends at "x", and "y" is cut off. -/
theorem exists_key_eq_or_cutOff_of_shortcut :
    normalizeDomain "a" = .ok "a" ∧ Statement.WellFormed "v=spf1 include:p include:x" ∧
      ∃ visits records',
        Resolved (answersByKey shortcut) { maxDepth := 2 } visits ∧
        (parseRecord (answersByKey shortcut) { maxDepth := 2 } "a"
          "v=spf1 include:p include:x").outcome = .ok (visits.map (·.record)) ∧
        (parseRecord (answersByKey shortcut) { maxDepth := 3 } "a"
          "v=spf1 include:p include:x").outcome = .ok records' ∧
        ∀ visit ∈ visits, Kept records' visit.record.source ∨
          ∃ ancestor ∈ visits,
            Relation.ReflTransGen (LeadsAmong (answersByKey shortcut) visits) ancestor visit ∧
              (CutOff 3 records' ancestor.record.source ∨
                Respelt (answersByKey shortcut) records' ancestor.record.source) := by
  have hdomain : normalizeDomain "a" = .ok "a" := rfl
  have hraw : Statement.WellFormed "v=spf1 include:p include:x" := by decide
  exact ⟨hdomain, hraw, exists_key_eq_or_cutOff {} 2 3 hdomain hraw rfl⟩

/-- A name among the sources of one result and not among those of another one is not kept. -/
theorem not_exists_kept {outcome outcome' : Except PolicyError (List PolicyRecord)}
    {sources sources' : List String} (name : String)
    (h : outcome.map (List.map (·.source)) = .ok sources)
    (h' : outcome'.map (List.map (·.source)) = .ok sources') (hname : name ∈ sources)
    (hlost : ∀ source ∈ sources', Name.key source ≠ Name.key name) :
    ¬∃ records records', outcome = .ok records ∧ outcome' = .ok records' ∧
      ∀ record ∈ records, Kept records' record.source := by
  rintro ⟨records, records', rfl, rfl, hkept⟩
  obtain rfl : records.map (·.source) = sources := Except.ok.inj h
  obtain rfl : records'.map (·.source) = sources' := Except.ok.inj h'
  obtain ⟨record, hrecord, rfl⟩ := List.mem_map.mp hname
  obtain ⟨record', hrecord', hkey⟩ := hkept record hrecord
  exact hlost record'.source (List.mem_map_of_mem hrecord') hkey

/-- A larger limit can lose a name although the names with one key publish the same policies, and
it can lose one although nothing is cut off. -/
theorem not_forall_kept :
    (¬∀ (resolver : Resolver) (options : ResolveOptions) (domain ascii raw : String)
        (limit limit' : Nat), Function.FactorsThrough resolver.policiesAt Name.key →
      normalizeDomain domain = .ok ascii → Statement.WellFormed raw →
      options.onFailure = .tolerate → limit ≤ limit' →
      ∃ records records',
        (parseRecord resolver { options with maxDepth := limit } domain raw).outcome =
          .ok records ∧
        (parseRecord resolver { options with maxDepth := limit' } domain raw).outcome =
          .ok records' ∧
        ∀ record ∈ records, Kept records' record.source) ∧
    ¬∀ (resolver : Resolver) (options : ResolveOptions) (domain ascii raw : String)
        (limit limit' : Nat), normalizeDomain domain = .ok ascii → Statement.WellFormed raw →
      options.onFailure = .tolerate → limit ≤ limit' →
      ∃ records records',
        (parseRecord resolver { options with maxDepth := limit } domain raw).outcome =
          .ok records ∧
        (parseRecord resolver { options with maxDepth := limit' } domain raw).outcome =
          .ok records' ∧
        ((¬∃ name, CutOff limit' records' name) → ∀ record ∈ records, Kept records' record.source)
    := by
  have hraw : Statement.WellFormed "v=spf1 include:p include:x" := by decide
  have hlost : ∀ last, Name.key last ≠ "y" →
      ∀ source ∈ ["a", "p", "q", last], Name.key source ≠ Name.key "y" := by
    intro last hlast
    simp only [List.forall_mem_cons, List.not_mem_nil, false_imp_iff, implies_true, and_true]
    exact ⟨by decide, by decide, by decide, hlast⟩
  constructor
  · intro hall
    have hsmall : (parseRecord (answersByKey shortcut) { maxDepth := 2 } "a"
        "v=spf1 include:p include:x").outcome.map (List.map (·.source)) =
          .ok ["a", "p", "q", "x", "y"] := by decide +kernel
    have hlarge : (parseRecord (answersByKey shortcut) { maxDepth := 3 } "a"
        "v=spf1 include:p include:x").outcome.map (List.map (·.source)) =
          .ok ["a", "p", "q", "x"] := by decide +kernel
    refine not_exists_kept "y" hsmall hlarge (by decide) (hlost "x" (by decide)) ?_
    refine hall _ {} "a" "a" _ 2 3 (fun name name' hkey => ?_) rfl hraw rfl (by decide)
    refine Resolver.policiesAt_congr ?_
    rw [answersByKey, answersByKey, hkey]
  · intro hall
    have hsmall : (parseRecord respeltShortcut.resolver { maxDepth := 2 } "a"
        "v=spf1 include:p include:x").outcome.map (List.map (·.source)) =
          .ok ["a", "p", "q", "x", "y"] := by decide +kernel
    have hlarge : (parseRecord respeltShortcut.resolver { maxDepth := 3 } "a"
        "v=spf1 include:p include:x").outcome.map (List.map (·.source)) =
          .ok ["a", "p", "q", "X"] := by decide +kernel
    have hissues : (parseRecord respeltShortcut.resolver { maxDepth := 3 } "a"
        "v=spf1 include:p include:x").outcome.map (List.flatMap (·.issues)) =
          .ok [.cycleDetected "x"] := by decide +kernel
    obtain ⟨records, records', hrecords, hrecords', hkept⟩ :=
      hall respeltShortcut.resolver {} "a" "a" _ 2 3 rfl hraw rfl (by decide)
    refine not_exists_kept "y" hsmall hlarge (by decide) (hlost "X" (by decide))
      ⟨records, records', hrecords, hrecords', hkept ?_⟩
    rintro ⟨name, record, hrecord, hissue⟩
    rw [hrecords'] at hissues
    have hmem : Issue.depthExceeded name 4 ∈ records'.flatMap (·.issues) :=
      List.mem_flatMap.mpr ⟨record, hrecord, hissue⟩
    rw [Except.ok.inj hissues] at hmem
    exact absurd (List.mem_singleton.mp hmem) nofun

end Expansion

end SenderPolicy
