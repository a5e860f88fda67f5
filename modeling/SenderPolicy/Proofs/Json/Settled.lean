import SenderPolicy.Proofs.Json.Reading

/-!
# What is read has the shape

A shape reads many texts, and which ones is a long story: fields in any order, fields left out,
fields that nobody knows.  What it makes of them is a short one.  `Shape.Fits` says what the settled
values of a shape are, without any text, and `gives_read` that nothing else is read.  So a fact about
everything that can be decoded is a fact about the values of a shape: `exists_fits_of_decode`.

* `Reader.Gives`: whatever a reader makes of a text has a property.  It is a weak statement, since
  nothing is said about which texts are read; every fault satisfies it.
* `gives_read`: by recursion on the shape, together with its fields and its variants.  Fields are
  looked up by name, so the names of the fields of a record have to be distinct (`Shape.isProper`).
* `Held.of_decode`: what holds of the values that a type has for settled ones holds of everything
  that is decoded.
-/

namespace SenderPolicy.Json

namespace Reader

variable {α β σ : Type} {P : α → Prop} {Q : β → Prop}

/-- Whatever the reader makes of a text has the property. -/
def Gives (reader : Reader α) (P : α → Prop) : Prop :=
  ∀ cs a rest, reader cs = .ok (a, rest) → P a

theorem gives_pure {a : α} (h : P a) : Gives (pure a) P := by
  intro cs b rest hread
  cases hread
  exact h

theorem Gives.mono {reader : Reader α} {P' : α → Prop} (h : Gives reader P)
    (hmono : ∀ a, P a → P' a) : Gives reader P' :=
  fun cs a rest hread => hmono a (h cs a rest hread)

theorem gives_fault {f : Fault} : Gives (fault f) P := by
  intro cs a rest hread
  cases hread

/-- What comes first matters as far as its own property goes. -/
theorem Gives.bind {reader : Reader α} {next : α → Reader β} (h : Gives reader P)
    (hnext : ∀ a, P a → Gives (next a) Q) : Gives (reader >>= next) Q := by
  intro cs b rest hread
  cases hfirst : reader cs with
  | error f =>
    have hfault : (reader >>= next) cs = .error f := by
      change (reader cs >>= fun found => next found.1 found.2) = .error f
      rw [hfirst]
      rfl
    rw [hfault] at hread
    cases hread
  | ok found =>
    have hgo : (reader >>= next) cs = next found.1 found.2 := by
      change (reader cs >>= fun found => next found.1 found.2) = next found.1 found.2
      rw [hfirst]
      rfl
    rw [hgo] at hread
    exact hnext found.1 (h cs found.1 found.2 hfirst) found.2 b rest hread

/-- What comes first does not matter. -/
theorem gives_bind {reader : Reader α} {next : α → Reader β} (hnext : ∀ a, Gives (next a) Q) :
    Gives (reader >>= next) Q := by
  have hany : Gives reader fun _ => True := fun _ _ _ _ => trivial
  exact hany.bind fun a _ => hnext a

theorem gives_unexpected : Gives unexpected P := by
  refine gives_bind fun c => ?_
  repeat' split
  all_goals first
    | exact gives_fault
    | exact gives_bind fun _ => gives_bind fun _ => gives_fault
    | exact gives_bind fun _ => gives_fault

/-- What every part keeps, the parts together keep. -/
theorem gives_parts {close : Char} {part : σ → Reader σ} {P : σ → Prop}
    (hpart : ∀ gathered, P gathered → Gives (part gathered) P) (rounds : Nat) :
    ∀ isFirst gathered, P gathered → Gives (parts close part rounds isFirst gathered) P := by
  induction rounds with
  | zero =>
    intro isFirst gathered _
    rw [parts]
    exact gives_fault
  | succ rounds ih =>
    intro isFirst gathered hgathered
    rw [parts]
    refine gives_bind fun c => ?_
    repeat' split
    · exact gives_bind fun _ => gives_pure hgathered
    · exact (hpart gathered hgathered).bind fun next hnext => ih false next hnext
    · refine gives_bind fun _ => ?_
      exact (hpart gathered hgathered).bind fun next hnext => ih false next hnext
    · exact gives_fault

theorem gives_bracketed {close : Char} {part : σ → Reader σ} {start : σ} {P : σ → Prop}
    (hstart : P start) (hpart : ∀ gathered, P gathered → Gives (part gathered) P) :
    Gives (bracketed close part start) P :=
  gives_bind fun _ => gives_parts hpart _ true start hstart

/-- What a reader makes of a whole text has the property. -/
theorem Gives.run {reader : Reader α} (h : Gives reader P) {cs : List Char} {a : α}
    (hrun : Reader.run reader cs = .ok a) : P a := by
  rw [Reader.run] at hrun
  cases hread : reader cs with
  | error f =>
    rw [hread] at hrun
    cases hrun
  | ok found =>
    obtain ⟨b, rest⟩ := found
    rw [hread] at hrun
    change (if rest.all isBlank then pure b else throw Fault.malformed : Except Fault α) = .ok a
      at hrun
    split at hrun
    · obtain rfl := Except.ok.inj hrun
      exact h cs b rest hread
    · cases hrun

end Reader

open Reader

/-! ## Settled values -/

/-- The names of fields, in order. -/
def Fields.names : Fields → List String
  | .nil => []
  | .cons name _ rest => name :: rest.names

mutual

/-- The fields of the records in the shape have distinct names. -/
def Shape.isProper : Shape → Bool
  | .optional shape => shape.isProper
  | .list shape => shape.isProper
  | .record fields => fields.isProper
  | .variants variants => variants.isProper
  | _ => true

/-- The names are distinct, and the shapes are proper. -/
def Fields.isProper : Fields → Bool
  | .nil => true
  | .cons name shape rest => !rest.names.contains name && shape.isProper && rest.isProper

/-- The shapes of the payloads are proper. -/
def Variants.isProper : Variants → Bool
  | .nil => true
  | .unit _ rest => rest.isProper
  | .payload _ shape rest => shape.isProper && rest.isProper

end

mutual

/-- The settled value is one of the shape. -/
def Shape.Fits : Shape → Json → Prop
  | .text valid, json => ∃ s, json = .str s ∧ valid s = true
  | .count bound, json => ∃ n, json = .num n ∧ n ≤ bound
  | .flag, json => ∃ b, json = .bool b
  | .optional shape, json => json = .null ∨ shape.Fits json
  | .list shape, json => ∃ items, json = .arr items ∧ ∀ item ∈ items, shape.Fits item
  | .record fields, json => ∃ members, json = .obj members ∧ fields.Fit members
  | .variants variants, json => variants.Fits json

/-- The members are the fields, all there and in order. -/
def Fields.Fit : Fields → List (String × Json) → Prop
  | .nil, members => members = []
  | .cons name shape rest, members =>
    ∃ value others, members = (name, value) :: others ∧ shape.Fits value ∧ rest.Fit others

/-- The settled value is one of a variant. -/
def Variants.Fits : Variants → Json → Prop
  | .nil, _ => False
  | .unit name rest, json => json = .str name ∨ rest.Fits json
  | .payload name shape rest, json =>
    (∃ value, json = .obj [(name, value)] ∧ shape.Fits value) ∨ rest.Fits json

end

/-- The settled value is one of the field of that name. -/
def Fields.FitsAt : Fields → String → Json → Prop
  | .nil, _, _ => False
  | .cons name shape rest, sought, value =>
    if name = sought then shape.Fits value else rest.FitsAt sought value

/-! ## Fields -/

/-- A field behind the first one of a record with distinct names has another name. -/
theorem Fields.ne_of_isProper {name : String} {shape : Shape} {rest : Fields}
    (h : (Fields.cons name shape rest).isProper = true) :
    shape.isProper = true ∧ rest.isProper = true ∧ ∀ other ∈ rest.names, name ≠ other := by
  rw [Fields.isProper, Bool.and_eq_true, Bool.and_eq_true] at h
  obtain ⟨⟨hnew, hshape⟩, hrest⟩ := h
  refine ⟨hshape, hrest, fun other hother heq => ?_⟩
  rw [heq, Bool.not_eq_true', ← Bool.not_eq_true, List.contains_iff_mem] at hnew
  exact hnew hother

/-- The first field settles to what was found for it, or to null if it may be left out. -/
theorem exists_of_settle_cons {name : String} {shape : Shape} {rest : Fields}
    {found members : List (String × Json)}
    (h : (Fields.cons name shape rest).settle found = some members) :
    ∃ value others, members = (name, value) :: others ∧ rest.settle found = some others ∧
      (found? found name = some value ∨ value = .null ∧ ∃ inner, shape = .optional inner) := by
  have hrest : ∀ value, (do return (name, value) :: (← rest.settle found)) = some members →
      ∃ others, members = (name, value) :: others ∧ rest.settle found = some others := by
    intro value hvalue
    obtain ⟨others, hothers, hmembers⟩ := Option.bind_eq_some_iff.mp hvalue
    exact ⟨others, (Option.some.inj hmembers).symm, hothers⟩
  cases hfound : found? found name with
  | some value =>
    have hsettle : (Fields.cons name shape rest).settle found =
        (do return (name, value) :: (← rest.settle found)) := by
      cases shape <;> simp only [Fields.settle, hfound] <;> rfl
    obtain ⟨others, hmembers, hothers⟩ := hrest value (hsettle ▸ h)
    exact ⟨value, others, hmembers, hothers, Or.inl rfl⟩
  | none =>
    cases shape with
    | optional inner =>
      simp only [Fields.settle, hfound] at h
      obtain ⟨others, hmembers, hothers⟩ := hrest .null h
      exact ⟨.null, others, hmembers, hothers, Or.inr ⟨rfl, inner, rfl⟩⟩
    | _ =>
      simp only [Fields.settle, hfound] at h
      cases h

/-- Fields that were found settle to members of the shape. -/
theorem fit_of_settle (fields : Fields) {found : List (String × Json)}
    (hproper : fields.isProper = true)
    (hfound : ∀ name ∈ fields.names, ∀ value, found? found name = some value →
      fields.FitsAt name value) :
    ∀ members, fields.settle found = some members → fields.Fit members := by
  cases fields with
  | nil =>
    intro members h
    obtain rfl := Option.some.inj h
    exact rfl
  | cons name shape rest =>
    obtain ⟨-, hrest, hnames⟩ := Fields.ne_of_isProper hproper
    intro members h
    obtain ⟨value, others, hmembers, hothers, hvalue⟩ := exists_of_settle_cons h
    refine ⟨value, others, hmembers, ?_, ?_⟩
    · rcases hvalue with hvalue | ⟨rfl, inner, rfl⟩
      · have hfits := hfound name (List.mem_cons_self ..) value hvalue
        rwa [Fields.FitsAt, if_pos rfl] at hfits
      · exact Or.inl rfl
    · refine fit_of_settle rest hrest (fun other hother v hv => ?_) others hothers
      have hfits := hfound other (List.mem_cons_of_mem _ hother) v hv
      rwa [Fields.FitsAt, if_neg (hnames other hother)] at hfits

/-- One more field that is found fits, if it was not found before. -/
theorem fitsAt_concat {fields : Fields} {found : List (String × Json)}
    (hfound : ∀ name value, found? found name = some value → fields.FitsAt name value)
    {name : String} (hnew : ¬(found? found name).isSome = true) {value : Json}
    (hvalue : fields.FitsAt name value) :
    ∀ other v, found? (found ++ [(name, value)]) other = some v → fields.FitsAt other v := by
  intro other v h
  by_cases hname : name = other
  · subst hname
    have hmiss : found.find? (·.1 == name) = none := by
      rw [found?, Option.isSome_map, Bool.not_eq_true, Option.isSome_eq_false_iff,
        Option.isNone_iff_eq_none] at hnew
      exact hnew
    have hlast : found? (found ++ [(name, value)]) name = some value := by
      simp [found?, List.find?_append, hmiss]
    rw [hlast] at h
    obtain rfl := Option.some.inj h
    exact hvalue
  · rw [found?_concat hname] at h
    exact hfound other v h

/-- A string that names a variant is that variant. -/
theorem gives_named (variants : Variants) (sought : String) :
    Gives (variants.named sought) variants.Fits := by
  cases variants with
  | nil => exact gives_fault
  | unit name rest =>
    rw [Variants.named]
    split
    · exact gives_pure (Or.inl rfl)
    · exact (gives_named rest sought).mono fun _ => Or.inr
  | payload name shape rest =>
    rw [Variants.named]
    split
    · exact gives_fault
    · exact (gives_named rest sought).mono fun _ => Or.inr

/-! ## Reading -/

mutual

/-- What a shape reads is one of its values. -/
theorem gives_read : ∀ shape : Shape, shape.isProper = true → Gives shape.read shape.Fits
  | .text valid, _ => by
    rw [Shape.read]
    refine gives_bind fun s => ?_
    split
    · next hvalid => exact gives_pure ⟨s, rfl, hvalid⟩
    · exact gives_fault
  | .count bound, _ => by
    rw [Shape.read]
    refine gives_bind fun c => ?_
    split
    · refine gives_bind fun n? => ?_
      cases n? with
      | none => exact gives_fault
      | some n =>
        dsimp only
        split
        · next hn => exact gives_pure ⟨n, rfl, hn⟩
        · exact gives_fault
    · exact gives_unexpected
  | .flag, _ => by
    rw [Shape.read]
    refine gives_bind fun c => ?_
    split
    · exact gives_bind fun _ => gives_bind fun _ => gives_pure ⟨true, rfl⟩
    · split
      · exact gives_bind fun _ => gives_bind fun _ => gives_pure ⟨false, rfl⟩
      · exact gives_unexpected
  | .optional shape, hproper => by
    rw [Shape.read]
    refine gives_bind fun c => ?_
    split
    · exact gives_bind fun _ => gives_bind fun _ => gives_pure (Or.inl rfl)
    · exact (gives_read shape hproper).mono fun _ => Or.inr
  | .list shape, hproper => by
    rw [Shape.read]
    refine gives_bind fun c => ?_
    split
    · refine gives_bind fun _ => ?_
      have hitems : Gives (bracketed ']' (fun items => return items ++ [← shape.read]) [])
          fun items => ∀ item ∈ items, shape.Fits item := by
        refine gives_bracketed (List.forall_mem_nil _) fun items hitems => ?_
        refine (gives_read shape hproper).bind fun item hitem => gives_pure ?_
        exact List.forall_mem_append.mpr ⟨hitems, List.forall_mem_singleton.mpr hitem⟩
      exact hitems.bind fun items h => gives_pure ⟨items, rfl, h⟩
    · exact gives_unexpected
  | .record fields, hproper => by
    rw [Shape.read]
    refine gives_bind fun c => ?_
    split
    · refine gives_bind fun _ => ?_
      refine Gives.bind (P := fun found => ∀ name value,
        found? found name = some value → fields.FitsAt name value) ?_ fun found hfound => ?_
      · refine gives_bracketed (fun name value h => by cases h) fun found hfound => ?_
        refine gives_bind fun name => ?_
        cases hreader : fields.reader? name with
        | none => exact gives_bind fun _ => gives_bind fun _ => gives_pure hfound
        | some reader =>
          dsimp only
          split
          · exact gives_fault
          · next hnew =>
            refine gives_bind fun _ => ?_
            refine (gives_reader? fields hproper name reader hreader).bind fun value hvalue => ?_
            exact gives_pure (fitsAt_concat hfound hnew hvalue)
      · cases hsettle : fields.settle found with
        | none => exact gives_fault
        | some members =>
          exact gives_pure
            ⟨members, rfl, fit_of_settle fields hproper (fun name _ => hfound name) members hsettle⟩
    · split
      · refine gives_bind fun _ => (gives_readRow fields hproper true).bind fun members h => ?_
        exact gives_bind fun _ => gives_pure ⟨members, rfl, h⟩
      · exact gives_unexpected
  | .variants variants, hproper => by
    rw [Shape.read]
    refine gives_bind fun c => ?_
    split
    · exact gives_bind fun _ => gives_bind fun name => gives_named variants name
    · split
      · refine gives_bind fun _ => gives_bind fun name => ?_
        exact (gives_readVariant variants hproper name).bind fun json hjson =>
          gives_bind fun _ => gives_pure hjson
      · exact gives_fault

/-- What is read for a field is one of its values. -/
theorem gives_reader? : ∀ fields : Fields, fields.isProper = true → ∀ sought reader,
    fields.reader? sought = some reader → Gives reader (fields.FitsAt sought)
  | .nil, _ => by
    intro sought reader h
    cases h
  | .cons name shape rest, hproper => by
    obtain ⟨hshape, hrest, -⟩ := Fields.ne_of_isProper hproper
    intro sought reader h
    rw [Fields.reader?] at h
    split at h
    · next hname =>
      obtain rfl := Option.some.inj h
      refine (gives_read shape hshape).mono fun json hfits => ?_
      rwa [Fields.FitsAt, if_pos hname]
    · next hname =>
      refine (gives_reader? rest hrest sought reader h).mono fun json hfits => ?_
      rwa [Fields.FitsAt, if_neg hname]

/-- Fields that are read as the items of an array are all there and in order. -/
theorem gives_readRow : ∀ fields : Fields, fields.isProper = true → ∀ isFirst,
    Gives (fields.readRow isFirst) fields.Fit
  | .nil, _ => fun _ => gives_pure rfl
  | .cons name shape rest, hproper => by
    obtain ⟨hshape, hrest, -⟩ := Fields.ne_of_isProper hproper
    have hrow : Gives (do
        let value ← shape.read
        return (name, value) :: (← rest.readRow false)) (Fields.cons name shape rest).Fit := by
      refine (gives_read shape hshape).bind fun value hvalue => ?_
      refine (gives_readRow rest hrest false).bind fun others hothers => gives_pure ?_
      exact ⟨value, others, rfl, hvalue, hothers⟩
    intro isFirst
    rw [Fields.readRow]
    refine gives_bind fun c => ?_
    split
    · exact gives_fault
    · cases isFirst with
      | true => exact hrow
      | false => exact gives_bind fun _ => hrow

/-- What follows the name of a variant makes one of its values. -/
theorem gives_readVariant : ∀ variants : Variants, variants.isProper = true → ∀ sought,
    Gives (variants.readVariant sought) variants.Fits
  | .nil, _ => fun _ => gives_fault
  | .unit name rest, hproper => by
    intro sought
    rw [Variants.readVariant]
    split
    · refine gives_bind fun _ => gives_bind fun c => ?_
      split
      · exact gives_bind fun _ => gives_bind fun _ => gives_pure (Or.inl rfl)
      · exact gives_unexpected
    · exact (gives_readVariant rest hproper sought).mono fun _ => Or.inr
  | .payload name shape rest, hproper => by
    have hboth : shape.isProper = true ∧ rest.isProper = true := Bool.and_eq_true_iff.mp hproper
    intro sought
    rw [Variants.readVariant]
    split
    · refine gives_bind fun _ => (gives_read shape hboth.1).bind fun value hvalue => ?_
      exact gives_pure (Or.inl ⟨value, rfl, hvalue⟩)
    · exact (gives_readVariant rest hboth.2 sought).mono fun _ => Or.inr

end

/-- Whatever is decoded is the value of a settled value of its shape. -/
theorem exists_fits_of_decode {α : Type} [Codec α] (hproper : (Codec.shape α).isProper = true)
    {text : String} {a : α} (h : decode text = .ok a) :
    ∃ json, (Codec.shape α).Fits json ∧ Codec.ofJson? json = some a := by
  rw [decode] at h
  cases hrun : (Codec.shape α).read.run text.toList with
  | error f =>
    rw [hrun] at h
    cases h
  | ok json =>
    rw [hrun] at h
    refine ⟨json, (gives_read _ hproper).run hrun, ?_⟩
    dsimp only [bind, Except.bind] at h
    cases hvalue : (Codec.ofJson? json : Option α) with
    | none =>
      rw [hvalue] at h
      cases h
    | some b =>
      rw [hvalue] at h
      obtain rfl := Except.ok.inj h
      rfl

/-! ## What settled values stand for -/

/-- Whatever the settled values of a type stand for has the property. -/
def Held (α : Type) [Codec α] (P : α → Prop) : Prop :=
  ∀ json, (Codec.shape α).Fits json → ∀ a : α, Codec.ofJson? json = some a → P a

section

variable {α : Type} [Codec α] {P : α → Prop}

/-- What holds of everything a type stands for holds of everything that is decoded. -/
theorem Held.of_decode (h : Held α P) (hproper : (Codec.shape α).isProper = true) {text : String}
    {a : α} (hdecode : decode text = .ok a) : P a := by
  obtain ⟨json, hfits, hvalue⟩ := exists_fits_of_decode hproper hdecode
  exact h json hfits a hvalue

/-- And of the members of a list. -/
theorem Held.of_mem (h : Held α P) {json : Json} (hfits : (Shape.list (Codec.shape α)).Fits json)
    {as : List α} (hvalue : toList? json = some as) : ∀ a ∈ as, P a := by
  obtain ⟨items, rfl, hitems⟩ := hfits
  replace hvalue : items.mapM Codec.ofJson? = some as := hvalue
  induction items generalizing as with
  | nil =>
    obtain rfl := Option.some.inj hvalue
    exact List.forall_mem_nil _
  | cons item items ih =>
    rw [List.mapM_cons] at hvalue
    obtain ⟨a, ha, hvalue⟩ := Option.bind_eq_some_iff.mp hvalue
    obtain ⟨rest, hrest, hvalue⟩ := Option.bind_eq_some_iff.mp hvalue
    obtain rfl := Option.some.inj hvalue
    obtain ⟨hitem, hitems⟩ := List.forall_mem_cons.mp hitems
    exact List.forall_mem_cons.mpr ⟨h item hitem a ha, ih hitems hrest⟩

end

end SenderPolicy.Json
