import Mathlib
import SenderPolicy.Dns.Zone
import SenderPolicy.Proofs.Expansion.Trail

/-!
# Reading the tree back off the depths

The records of a result stand in one list, and all that is left of the tree in them is their depth.
That is enough: `preordered_of_isResultFor` says that the list is the pre-order of the tree.

* The parent of a record is the nearest one in front of it that is one step less deep
  (`Resolved.exists_parent_of_eq_append`).
* What a record leads to, directly or not, is what follows it up to the next record that is not
  deeper (`Resolved.depth_lt_iff_transGen`).

The trails are the reason.  They grow along the list in the lexicographic order, in which nothing
stands between a trail and its continuation but other continuations of it
(`exists_eq_append_cons_of_lt_of_lt`), and a record is as deep as its trail is long.
-/

namespace SenderPolicy

namespace Expansion

variable {resolver : Resolver} {options : ResolveOptions} {visits : List Visit}

/-! ## Between a trail and its continuations -/

instance : Std.Asymm (· < · : Step → Step → Prop) where
  asymm s t h h' := by
    change s.clause < t.clause ∨ s.clause = t.clause ∧ s.text < t.text at h
    change t.clause < s.clause ∨ t.clause = s.clause ∧ t.text < s.text at h'
    omega

/-- What stands between a trail and a continuation of it continues it too. -/
theorem exists_eq_append_cons_of_lt_of_lt {t w rest : List Step} (h : t < w)
    (h' : w < t ++ rest) : ∃ step more, w = t ++ step :: more := by
  induction t generalizing w with
  | nil =>
    cases w with
    | nil => exact absurd h (List.lt_irrefl [])
    | cons step more => exact ⟨step, more, rfl⟩
  | cons s t ih =>
    cases w with
    | nil => exact absurd h (List.not_lt_nil _)
    | cons step more =>
      rw [List.cons_append] at h'
      rcases List.cons_lt_cons_iff.mp h with hlt | ⟨rfl, hlt⟩
      · rcases List.cons_lt_cons_iff.mp h' with hlt' | ⟨rfl, -⟩
        · exact absurd hlt' (Std.Asymm.asymm _ _ hlt)
        · exact absurd hlt (Std.Irrefl.irrefl _)
      · rcases List.cons_lt_cons_iff.mp h' with hlt' | ⟨-, hlt'⟩
        · exact absurd hlt' (Std.Irrefl.irrefl _)
        · obtain ⟨step', more', rfl⟩ := ih hlt hlt'
          exact ⟨step', more', rfl⟩

/-! ## Depth and domain -/

theorem Visit.LedTo.depth_eq {parent child : Visit} {step : Step} {target : String}
    {texts : List String} (h : parent.LedTo resolver step target texts child) :
    child.record.depth = parent.record.depth + 1 := by
  obtain ⟨clause, raw, -, -, -, -, -, -, hsite, -⟩ := h
  exact congrArg Site.depth hsite

theorem Visit.LedTo.domain_eq {parent child : Visit} {step : Step} {target : String}
    {texts : List String} (h : parent.LedTo resolver step target texts child) :
    child.record.domain = parent.record.domain := by
  obtain ⟨clause, raw, -, -, -, -, -, -, hsite, -⟩ := h
  exact congrArg Site.domain hsite

/-- A record is as deep as its trail is long. -/
theorem Resolved.depth_eq_length_trail (h : Resolved resolver options visits) :
    ∀ visit ∈ visits, visit.record.depth = visit.trail.length := by
  refine h.forall_of_leads (fun root hroot => ?_) ?_
  · rw [h.trail_head root hroot, (h.site_head root hroot).1]
    rfl
  · rintro parent - child - ⟨step, target, texts, hled⟩ ih
    rw [hled.depth_eq, hled.trail_eq, ih, List.length_append, List.length_singleton]

/-- All records have been asked for on behalf of one domain. -/
theorem Resolved.domain_eq (h : Resolved resolver options visits) :
    ∀ root ∈ visits.head?, ∀ visit ∈ visits, visit.record.domain = root.record.domain := by
  intro root hroot
  refine h.forall_of_leads (fun first hfirst => ?_) ?_
  · rw [Option.mem_unique hroot hfirst]
  · rintro parent - child - ⟨step, target, texts, hled⟩ ih
    rw [hled.domain_eq, ih]

/-! ## Parents -/

/-- What stands in front of a visit has a smaller trail, and what stands behind it a larger one. -/
theorem Resolved.trail_lt_of_eq_append (h : Resolved resolver options visits)
    {front rest : List Visit} {x : Visit} (hvisits : visits = front ++ x :: rest) :
    (∀ v ∈ front, v.trail < x.trail) ∧ ∀ v ∈ rest, x.trail < v.trail := by
  have hpairwise := h.pairwise_trail_lt
  rw [hvisits, List.pairwise_append, List.pairwise_cons] at hpairwise
  obtain ⟨-, ⟨hrest, -⟩, hfront⟩ := hpairwise
  exact ⟨fun v hv => hfront v hv x (List.mem_cons_self ..), hrest⟩

/-- A record stands behind the one that leads to it, and everything between the two is at least as
deep as the record. -/
theorem Resolved.exists_between_of_ledTo (h : Resolved resolver options visits)
    {front rest : List Visit} {parent child : Visit} {step : Step} {target : String}
    {texts : List String} (hvisits : visits = front ++ child :: rest) (hparent : parent ∈ visits)
    (hled : parent.LedTo resolver step target texts child) :
    ∃ before between, front = before ++ parent :: between ∧
      ∀ v ∈ between, child.record.depth ≤ v.record.depth := by
  have hlt : parent.trail < child.trail := by
    rw [hled.trail_eq]
    exact trail_lt_append_cons _ step []
  obtain ⟨-, hbehind⟩ := h.trail_lt_of_eq_append hvisits
  have hfront : parent ∈ front := by
    have hmem := hparent
    rw [hvisits, List.mem_append, List.mem_cons] at hmem
    rcases hmem with hmem | rfl | hmem
    · exact hmem
    · exact absurd hlt (List.lt_irrefl _)
    · exact absurd hlt (List.lt_asymm (hbehind parent hmem))
  obtain ⟨before, between, rfl⟩ := List.append_of_mem hfront
  refine ⟨before, between, rfl, fun v hv => ?_⟩
  have hchild : child ∈ visits := by simp [hvisits]
  have hmem : v ∈ visits := by simp [hvisits, hv]
  have hv1 : parent.trail < v.trail := by
    rw [List.append_assoc, List.cons_append] at hvisits
    exact (h.trail_lt_of_eq_append hvisits).2 v (List.mem_append_left _ hv)
  have hv2 : v.trail < parent.trail ++ [step] := by
    rw [← hled.trail_eq]
    exact (h.trail_lt_of_eq_append hvisits).1 v
      (List.mem_append_right _ (List.mem_cons_of_mem _ hv))
  obtain ⟨step', more, htrail⟩ := exists_eq_append_cons_of_lt_of_lt hv1 hv2
  rw [h.depth_eq_length_trail child hchild, h.depth_eq_length_trail v hmem, hled.trail_eq, htrail]
  simp

/-- The nearest record in front of a record that is one step less deep leads to it. -/
theorem Resolved.exists_parent_of_eq_append (h : Resolved resolver options visits)
    {front rest : List Visit} {child : Visit} (hvisits : visits = front ++ child :: rest)
    (hfront : front ≠ []) :
    ∃ before parent between, front = before ++ parent :: between ∧
      parent.record.depth + 1 = child.record.depth ∧
      (∀ v ∈ between, child.record.depth ≤ v.record.depth) ∧ parent.Leads resolver child := by
  obtain ⟨parent, hparent, step, target, texts, hled⟩ : ∃ parent ∈ visits,
      parent.Leads resolver child := by
    refine h.exists_leads child ?_
    rw [hvisits, List.tail_append_of_ne_nil hfront]
    exact List.mem_append_right _ (List.mem_cons_self ..)
  obtain ⟨before, between, hbefore, hbetween⟩ := h.exists_between_of_ledTo hvisits hparent hled
  exact ⟨before, parent, between, hbefore, hled.depth_eq.symm, hbetween, step, target, texts, hled⟩

/-- From one record to the next one the depth grows by one step at most. -/
theorem Resolved.depth_le_of_eq_append (h : Resolved resolver options visits)
    {front rest : List Visit} {x y : Visit} (hvisits : visits = front ++ x :: y :: rest) :
    1 ≤ y.record.depth ∧ y.record.depth ≤ x.record.depth + 1 := by
  have hsplit : visits = (front ++ [x]) ++ y :: rest := by rw [hvisits, List.append_cons]
  obtain ⟨before, parent, between, hfront, hdepth, hbetween, -⟩ :=
    h.exists_parent_of_eq_append hsplit (by simp)
  refine ⟨by omega, ?_⟩
  rcases List.eq_nil_or_concat between with rfl | ⟨between, last, rfl⟩
  · obtain ⟨-, rfl⟩ := List.append_singleton_inj.mp hfront
    omega
  · rw [List.concat_eq_append, ← List.cons_append, ← List.append_assoc] at hfront
    obtain ⟨-, rfl⟩ := List.append_singleton_inj.mp hfront
    have hle := hbetween x (by simp)
    omega

/-! ## Subtrees -/

/-- One of the visits leads to another one of them. -/
def LeadsAmong (resolver : Resolver) (visits : List Visit) (parent child : Visit) : Prop :=
  parent ∈ visits ∧ child ∈ visits ∧ parent.Leads resolver child

/-- What a visit leads to in the end is on a continuation of its trail. -/
theorem exists_trail_eq_of_transGen {x y : Visit}
    (h : Relation.TransGen (LeadsAmong resolver visits) x y) :
    ∃ step more, y.trail = x.trail ++ step :: more := by
  induction h with
  | single hxy =>
    obtain ⟨-, -, step, target, texts, hled⟩ := hxy
    exact ⟨step, [], hled.trail_eq⟩
  | tail _ hyz ih =>
    obtain ⟨first, more, hmore⟩ := ih
    obtain ⟨-, -, step, target, texts, hled⟩ := hyz
    refine ⟨first, more ++ [step], ?_⟩
    rw [hled.trail_eq, hmore, List.append_assoc, List.cons_append]

/-- A record behind another one is below it if all records from there on are deeper. -/
theorem Resolved.transGen_of_depth_lt (h : Resolved resolver options visits) {x : Visit} :
    ∀ y ∈ visits, ∀ front mid rest, visits = front ++ x :: (mid ++ y :: rest) →
      (∀ v ∈ mid ++ [y], x.record.depth < v.record.depth) →
      Relation.TransGen (LeadsAmong resolver visits) x y := by
  refine h.forall_of_leads (fun root hroot front mid rest hvisits hdeeper => ?_) ?_
  · have hlt := hdeeper root (by simp)
    rw [(h.site_head root hroot).1] at hlt
    exact absurd hlt (Nat.not_lt_zero _)
  · rintro parent hparent child hchild hleads ih front mid rest hvisits hdeeper
    have hx : x ∈ visits := by simp [hvisits]
    have hxchild : x.record.depth < child.record.depth := hdeeper child (by simp)
    obtain ⟨step, target, texts, hled⟩ := id hleads
    have hsplit : visits = (front ++ x :: mid) ++ child :: rest := by simp [hvisits]
    obtain ⟨before, between, hfront, hbetween⟩ := h.exists_between_of_ledTo hsplit hparent hled
    -- the parent stands behind the ancestor or is the ancestor, which is not deep enough to stand
    -- between a parent and its child
    rcases List.append_eq_append_iff.mp hfront with ⟨as, -, hmid⟩ | ⟨as, -, hbehind⟩
    · cases as with
      | nil =>
        obtain ⟨rfl, -⟩ := List.cons.inj hmid
        exact .single ⟨hx, hchild, hleads⟩
      | cons a as =>
        have hbehind : mid = as ++ parent :: between := (List.cons.inj hmid).2
        have hsub : as ++ [parent] ⊆ mid ++ [child] := by
          rw [hbehind]
          intro v hv
          rcases List.mem_append.mp hv with hv | hv
          · simp [hv]
          · simp [List.mem_singleton.mp hv]
        have hancestor : Relation.TransGen (LeadsAmong resolver visits) x parent := by
          refine ih front as (between ++ child :: rest) ?_ fun v hv => hdeeper v (hsub hv)
          rw [hvisits, hbehind, List.append_assoc, List.cons_append]
        exact hancestor.tail ⟨hparent, hchild, hleads⟩
    · cases as with
      | nil =>
        obtain ⟨rfl, -⟩ := List.cons.inj hbehind
        exact .single ⟨hx, hchild, hleads⟩
      | cons a as =>
        have hmem : x ∈ between := by
          rw [(List.cons.inj hbehind).2]
          exact List.mem_append_right as (List.mem_cons_self ..)
        exact absurd (hbetween x hmem) (Nat.not_le.mpr hxchild)

/-- What a record leads to in the end is what follows it up to the next record that is not
deeper. -/
theorem Resolved.depth_lt_iff_transGen (h : Resolved resolver options visits) {x y : Visit}
    {front mid rest : List Visit} (hvisits : visits = front ++ x :: (mid ++ y :: rest)) :
    (∀ v ∈ mid ++ [y], x.record.depth < v.record.depth) ↔
      Relation.TransGen (LeadsAmong resolver visits) x y := by
  have hx : x ∈ visits := by simp [hvisits]
  have hy : y ∈ visits := by simp [hvisits]
  refine ⟨h.transGen_of_depth_lt y hy front mid rest hvisits, fun htrans v hv => ?_⟩
  obtain ⟨step, more, hmore⟩ := exists_trail_eq_of_transGen htrans
  have hvmem : v ∈ visits := by
    rw [hvisits]
    rcases List.mem_append.mp hv with hv | hv
    · simp [hv]
    · simp [List.mem_singleton.mp hv]
  obtain ⟨step', more', hv'⟩ : ∃ step' more', v.trail = x.trail ++ step' :: more' := by
    rcases List.mem_append.mp hv with hv | hv
    · have hsplit : visits = (front ++ x :: mid) ++ y :: rest := by simp [hvisits]
      have hxv : x.trail < v.trail :=
        (h.trail_lt_of_eq_append hvisits).2 v (List.mem_append_left _ hv)
      have hvy : v.trail < y.trail := (h.trail_lt_of_eq_append hsplit).1 v (by simp [hv])
      rw [hmore] at hvy
      exact exists_eq_append_cons_of_lt_of_lt hxv hvy
    · obtain rfl := List.mem_singleton.mp hv
      exact ⟨step, more, hmore⟩
  rw [h.depth_eq_length_trail x hx, h.depth_eq_length_trail v hvmem, hv']
  simp

/-! ## Entries -/

/-- A clause that leads to a name leaves an entry of one of two tags. -/
theorem exists_entry_of_target? {site : Site} {clause : Clause} {target : String}
    (hlead : clause.target? = some target) :
    ∃ entry ∈ (own resolver options site clause).entries,
      (entry.tag = .inclusion ∨ entry.tag = .redirection) ∧ entry.value = target := by
  obtain ⟨token, term⟩ := clause
  cases term with
  | inclusion name =>
    obtain rfl : name = target := Option.some.inj hlead
    exact ⟨_, List.mem_singleton_self _, Or.inl rfl, rfl⟩
  | redirection name =>
    obtain rfl : name = target := Option.some.inj hlead
    exact ⟨_, List.mem_singleton_self _, Or.inr rfl, rfl⟩
  | _ => cases hlead

/-- A record that leads to another one has an entry for the name of that one. -/
theorem Visit.Reads.exists_entry_of_leads {parent child : Visit} {statement : Statement}
    (h : parent.Reads resolver options statement) (hleads : parent.Leads resolver child) :
    ∃ entry ∈ parent.record.entries,
      (entry.tag = .inclusion ∨ entry.tag = .redirection) ∧ entry.value = child.record.source := by
  obtain ⟨step, target, texts, clause, raw, hclause, htarget, -, -, -, -, hsite, -⟩ := hleads
  obtain ⟨entry, hentry, htag, hvalue⟩ :
      ∃ entry ∈ (own resolver options parent.site clause).entries,
        (entry.tag = .inclusion ∨ entry.tag = .redirection) ∧ entry.value = target :=
    exists_entry_of_target? htarget
  have hsource : child.record.source = target := congrArg Site.source hsite
  refine ⟨entry, ?_, htag, hvalue.trans hsource.symm⟩
  rw [← Statement.clauses_of_parse_eq_ok h.parse_eq] at hclause
  rw [h.record_eq, entries_recordOf]
  exact List.mem_flatMap.mpr ⟨clause, List.mem_of_getElem? hclause, hentry⟩

/-! ## Results -/

/-- The records are a result for the domain: of a text that is at hand, or of its policy. -/
def IsResultFor (resolver : Resolver) (options : ResolveOptions) (domain : String)
    (records : List PolicyRecord) : Prop :=
  (∃ raw, (parseRecord resolver options domain raw).outcome = .ok records) ∨
    (resolve resolver options domain).outcome = .ok records

/-- The visits stand in the pre-order of the tree that they make: each in front of what it leads
to, and what it leads to in the order of its clauses and of the texts that answer them. -/
structure Preordered (resolver : Resolver) (options : ResolveOptions) (ascii : String)
    (visits : List Visit) : Prop where
  /-- Each visit is the reading of a text. -/
  reads : ∀ visit ∈ visits, ∃ statement, visit.Reads resolver options statement
  /-- The first record is the domain's own. -/
  root : ∀ root ∈ visits.head?, root.record.depth = 0 ∧ root.record.source = ascii
  /-- All records have been asked for on behalf of the domain. -/
  domain : ∀ visit ∈ visits, visit.record.domain = ascii
  /-- No other record is at depth zero, and none is more than one step deeper than the one in
  front of it. -/
  depth : ∀ front x y rest, visits = front ++ x :: y :: rest →
    1 ≤ y.record.depth ∧ y.record.depth ≤ x.record.depth + 1
  /-- The nearest record in front of another one that is one step less deep has an entry for the
  name of that one, and leads to it. -/
  parent : ∀ front child rest, visits = front ++ child :: rest → front ≠ [] →
    ∃ before parent between, front = before ++ parent :: between ∧
      parent.record.depth + 1 = child.record.depth ∧
      (∀ v ∈ between, child.record.depth ≤ v.record.depth) ∧
      (∃ entry ∈ parent.record.entries, (entry.tag = .inclusion ∨ entry.tag = .redirection) ∧
        entry.value = child.record.source) ∧
      parent.Leads resolver child
  /-- What one record leads to stands in the order of the steps that lead there. -/
  siblings : visits.Pairwise fun x y => ∀ (parent : Visit) s target texts t target' texts',
    parent.LedTo resolver s target texts x → parent.LedTo resolver t target' texts' y → s < t
  /-- What a record leads to in the end is what follows it up to the next record that is not
  deeper. -/
  subtree : ∀ front x mid y rest, visits = front ++ x :: (mid ++ y :: rest) →
    ((∀ v ∈ mid ++ [y], x.record.depth < v.record.depth) ↔
      Relation.TransGen (LeadsAmong resolver visits) x y)

theorem Resolved.preordered (h : Resolved resolver options visits) {ascii : String}
    (hroot : ∀ root ∈ visits.head?, root.record.domain = ascii) :
    Preordered resolver options ascii visits := by
  constructor
  case reads => exact h.exists_reads
  case root =>
    intro root hhead
    obtain ⟨hdepth, hsource⟩ := h.site_head root hhead
    exact ⟨hdepth, hsource.trans (hroot root hhead)⟩
  case domain =>
    intro visit hvisit
    cases visits with
    | nil => cases hvisit
    | cons root below => rw [h.domain_eq root rfl visit hvisit, hroot root rfl]
  case depth => exact fun front x y rest => h.depth_le_of_eq_append
  case parent =>
    intro front child rest hvisits hfront
    obtain ⟨before, parent, between, rfl, hdepth, hbetween, hleads⟩ :=
      h.exists_parent_of_eq_append hvisits hfront
    have hmem : parent ∈ visits := by simp [hvisits]
    obtain ⟨statement, hreads⟩ := h.exists_reads parent hmem
    exact ⟨before, parent, between, rfl, hdepth, hbetween, hreads.exists_entry_of_leads hleads,
      hleads⟩
  case siblings =>
    refine h.pairwise_trail_lt.imp ?_
    intro x y hlt parent s target texts t target' texts' hx hy
    rw [hx.trail_eq, hy.trail_eq] at hlt
    rcases List.cons_lt_cons_iff.mp (lt_of_append_lt_append hlt) with hst | ⟨-, hnil⟩
    · exact hst
    · exact absurd hnil (List.lt_irrefl [])
  case subtree => exact fun front x mid y rest => h.depth_lt_iff_transGen

/-- The list of the records of a result is the pre-order of the tree of the texts that they are
made of. -/
theorem preordered_of_isResultFor {domain : String} {records : List PolicyRecord}
    (h : IsResultFor resolver options domain records) (hne : records ≠ []) :
    ∃ ascii visits, normalizeDomain domain = .ok ascii ∧ visits.map (·.record) = records ∧
      Preordered resolver options ascii visits := by
  obtain ⟨ascii, raw, hascii, htext⟩ : ∃ ascii raw, normalizeDomain domain = .ok ascii ∧
      (resolveText resolver options ascii raw).outcome = .ok records := by
    rcases h with ⟨raw, h⟩ | h
    · obtain ⟨ascii, hascii, h⟩ := Traced.outcome_bind_eq_ok.mp h
      exact ⟨ascii, raw, hascii, h⟩
    · obtain ⟨ascii, hascii, h⟩ := Traced.outcome_bind_eq_ok.mp h
      obtain ⟨raws, -, h⟩ := Traced.outcome_bind_eq_ok.mp h
      cases raws with
      | nil => exact absurd (Except.ok.inj h).symm hne
      | cons raw raws => exact ⟨ascii, raw, hascii, h⟩
  obtain ⟨first, below, hvisits, rfl, hfirst⟩ := exists_resolved_of_outcome_resolveText htext
  refine ⟨ascii, first :: below, hascii, rfl, hvisits.preordered fun root hroot => ?_⟩
  obtain rfl := Option.some.inj hroot
  exact hfirst

/-- A text that leads to two names, the first of which leads further and publishes two texts. -/
theorem preordered_of_zone :
    let resolver := Zone.resolver
      [⟨"b", .txt, .ok [.text "v=spf1 redirect=d", .text "v=spf1 ?all"]⟩,
        ⟨"c", .txt, .ok [.text "v=spf1 -all"]⟩, ⟨"d", .txt, .ok [.text "v=spf1 ~all"]⟩]
    let text (source raw : String) (depth : Nat) (action : Action)
        (entries : List (EntryTag × String)) : PolicyRecord :=
      ⟨"a", source, raw, "spf1", depth, action,
        entries.map fun entry => ⟨"a", source, entry.1, entry.2⟩, [], [], none, []⟩
    let records := [
      text "a" "v=spf1 include:b include:c" 0 .neutral [(.inclusion, "b"), (.inclusion, "c")],
      text "b" "v=spf1 redirect=d" 1 .neutral [(.redirection, "d")],
      text "d" "v=spf1 ~all" 2 .softFail [], text "b" "v=spf1 ?all" 1 .neutral [],
      text "c" "v=spf1 -all" 1 .fail []]
    IsResultFor resolver {} "A." records ∧ records ≠ [] ∧
      ∃ ascii visits, normalizeDomain "A." = .ok ascii ∧
        visits.map (·.record) = records ∧ Preordered resolver {} ascii visits := by
  intro resolver text records
  have hresult : IsResultFor resolver {} "A." records := by
    refine Or.inl ⟨"v=spf1 include:b include:c", outcome_parseRecord_eq_ok.mpr
      ⟨"a", ⟨"spf1", .neutral, [⟨"v=spf1", .version "spf1"⟩, ⟨"include:b", .inclusion "b"⟩,
        ⟨"include:c", .inclusion "c"⟩]⟩, by decide +kernel, by decide +kernel, by decide +kernel⟩⟩
  have hne : records ≠ [] := List.cons_ne_nil _ _
  exact ⟨hresult, hne, preordered_of_isResultFor hresult hne⟩

end Expansion

end SenderPolicy
