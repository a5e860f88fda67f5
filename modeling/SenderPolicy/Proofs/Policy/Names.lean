import SenderPolicy.Proofs.Policy.Tokens
import SenderPolicy.Proofs.Policy.WellFormed

/-!
# The names in a policy text

A term that has a name looked up has found it in its own token.  `spelt_parse` says where: the name
stands there letter by letter, behind the keyword of the term and, where hosts are named, in front
of their mask.  Only the keyword may be written in any case.
-/

namespace SenderPolicy

namespace Term

/-- The name that a term has looked up, if it gives one. -/
def name? : Term → Option String
  | inclusion target | redirection target | explanation target => some target
  | host _ target _ _ => target
  | _ => none

/-- What can stand in front of the name that the term gives. -/
def leaders : Term → List String
  | inclusion _ => ["include:"]
  | redirection _ => ["redirect="]
  | explanation _ => ["exp="]
  | host .a _ _ _ => ["a:", "+a:"]
  | host .mx _ _ _ => ["mx:", "+mx:"]
  | _ => []

/-- Whether the term names hosts, so that a mask can follow the name. -/
def isHost : Term → Bool
  | host _ _ _ _ => true
  | _ => false

/-- A term that leads to a name has it looked up. -/
theorem name?_of_target? {term : Term} {target : String} (h : term.target? = some target) :
    term.name? = some target ∧ term.isHost = false := by
  cases term with
  | inclusion | redirection => exact ⟨h, rfl⟩
  | _ => cases h

/-- The letters spell the term out, and in the term the name. -/
def Spelt (cs : List Char) (term : Term) (name : String) : Prop :=
  ∃ front mask, cs = front ++ name.toList ++ mask ∧
    (∃ leader ∈ term.leaders, front.map Char.toLower = leader.toList) ∧
    (mask = [] ∨ term.isHost = true ∧ mask.head? = some '/')

variable {cs : List Char} {term : Term} {name : String}

/-- What follows a keyword is the name as a whole, if the keyword has a name follow it. -/
theorem name?_of_mem_keywords : ∀ pair ∈ keywords, ∀ value name : String,
    (pair.2 value).name? = some name → name = value ∧ pair.1 ∈ (pair.2 value).leaders := by
  simp [keywords, name?, leaders]

/-- Hosts are named in front of the first slash. -/
theorem exists_mask_of_ofHostValue {kind : HostKind} {value : List Char}
    (hname : (ofHostValue kind value).name? = some name) :
    ∃ mask, value = name.toList ++ mask ∧ (mask = [] ∨ mask.head? = some '/') := by
  have htarget : (ofHostValue kind value).name? =
      if (Text.cutBefore '/' value).1 = [] then none
      else some (String.ofList (Text.cutBefore '/' value).1) := rfl
  rw [htarget] at hname
  split at hname
  · cases hname
  · obtain rfl := Option.some.inj hname
    rw [String.toList_ofList]
    exact ⟨(Text.cutBefore '/' value).2, (Text.cutBefore_append '/' value).symm,
      (Text.cutBefore_spec '/' value).2⟩

/-- Hosts are named behind a colon. -/
theorem eq_cons_of_hostValue? {kind : HostKind} {rest value : List Char}
    (h : hostValue? rest = some value) (hname : (ofHostValue kind value).name? = some name) :
    rest = ':' :: value := by
  rw [hostValue?.eq_def] at h
  split at h
  · cases h
    cases hname
  · cases h
    rfl
  · cases h
    cases hname
  · cases h

/-- The way in which a token is read spells the name out. -/
theorem Reads.spelt (h : Reads cs term) (hname : term.name? = some name) : term.Spelt cs name := by
  cases h with
  | keyword hmem hcs hhead =>
    obtain ⟨rfl, hleader⟩ := name?_of_mem_keywords _ hmem _ _ hname
    refine ⟨_, [], ?_, ⟨_, hleader, hhead⟩, Or.inl rfl⟩
    rw [String.toList_ofList, List.append_nil, hcs]
  | whole hmem =>
    have hnone : ∀ pair ∈ Term.fixed, pair.2.name? = none := by decide
    rw [hnone _ hmem] at hname
    cases hname
  | @host kind qualifier letters rest value hcs hqualifier hletters hvalue =>
    -- the colon behind the letters of the mechanism stands in front of the name
    obtain rfl := eq_cons_of_hostValue? hvalue hname
    obtain ⟨mask, rfl, hmask⟩ := exists_mask_of_ofHostValue hname
    refine ⟨qualifier ++ letters ++ [':'], mask, ?_, ?_, hmask.imp_right (⟨rfl, ·⟩)⟩
    · rw [hcs, List.append_cons, List.append_assoc (qualifier ++ letters ++ [':'])]
    · rw [List.map_append, List.map_append, hletters]
      rcases hqualifier with rfl | rfl
      · cases kind with
        | a => exact ⟨"a:", List.mem_cons_self .., rfl⟩
        | mx => exact ⟨"mx:", List.mem_cons_self .., rfl⟩
      · cases kind with
        | a => exact ⟨"+a:", List.mem_cons_of_mem _ (List.mem_cons_self ..), rfl⟩
        | mx => exact ⟨"+mx:", List.mem_cons_of_mem _ (List.mem_cons_self ..), rfl⟩

/-- The name that a token has looked up is spelt out in it. -/
theorem spelt_parse {token : String} (hname : (parse token).name? = some name) :
    (parse token).Spelt token.toList name := by
  have hknown : parse token ≠ unknown := by
    intro hunknown
    rw [hunknown] at hname
    cases hname
  have hreads : Reads token.toList (parse token) := (ofChars_eq_iff hknown).mp rfl
  exact hreads.spelt hname

example : (parse "+MX:Mail.Example/24").name? = some "Mail.Example" := by decide

end Term

end SenderPolicy
