import SenderPolicy.Json.Codec.Dns
import SenderPolicy.Proofs.Json.DecodedNetworks

/-!
# The types that records and settings are made of come back

The JSON text of a value is decoded to that value, for every type except the record itself, which
leaves out what it has none of.  The only condition is on counts: they have to be words of a
machine, and prefix lengths bytes.  Whatever is decoded is in that range, so a text that is
accepted may be decoded and encoded again as often as one likes (`RoundTrips`).

Each type brings two facts: its values are read as they are written (`Kept`), and what is read is
in range (`Held`).  Neither looks at a text; `roundTrips` puts them together.
-/

namespace SenderPolicy.Json

/-- The values in a range are kept as JSON, and nothing else is decoded. -/
structure RoundTrips (α : Type) [Codec α] (InRange : α → Prop) : Prop where
  /-- A value in range comes back from its text. -/
  decode_encode : ∀ a, InRange a → decode (encode a) = .ok a
  /-- A value that is decoded is in range. -/
  inRange : ∀ text (a : α), decode text = .ok a → InRange a
  /-- A value that is decoded from any text comes back from its own, and that text does not change
  any more. -/
  stable : ∀ text (a : α), decode text = .ok a →
    decode (encode a) = .ok a ∧ ∀ b : α, decode (encode a) = .ok b → encode b = encode a

variable {α : Type} [Codec α] {InRange : α → Prop}

theorem roundTrips (hproper : (Codec.shape α).isProper = true) (hkept : ∀ a, InRange a → Kept a)
    (hheld : Held α InRange) : RoundTrips α InRange := by
  have hback : ∀ a, InRange a → decode (encode a) = .ok a := fun a ha => decode_encode (hkept a ha)
  have hrange : ∀ text a, decode text = .ok a → InRange a :=
    fun text a => hheld.of_decode hproper
  refine ⟨hback, hrange, fun text a htext => ?_⟩
  have hagain := hback a (hrange text a htext)
  refine ⟨hagain, fun b hb => ?_⟩
  obtain rfl := Except.ok.inj (hagain.symm.trans hb)
  rfl

/-- A type without counts has no range to leave. -/
theorem held_true : Held α fun _ => True := fun _ _ _ _ => trivial

/-! ## Values that are kept -/

theorem kept_string (s : String) : Kept s := ⟨.str s, Shape.reads_string s, rfl⟩

theorem kept_answer (answer : Answer) : Kept answer := by
  cases answer with
  | address a =>
    obtain ⟨settled, hreads, hvalue⟩ := kept_address a
    refine ⟨_, Shape.reads_payload rfl hreads, ?_⟩
    show (Codec.ofJson? settled).map Answer.address = some (.address a)
    rw [hvalue]
    rfl
  | name s => exact ⟨_, Shape.reads_payload rfl (Shape.reads_string s), rfl⟩
  | text s => exact ⟨_, Shape.reads_payload rfl (Shape.reads_string s), rfl⟩

theorem kept_failurePolicy (policy : FailurePolicy) : Kept policy := by
  refine ⟨Codec.toJson policy, ?_, ?_⟩
  · cases policy <;> exact Shape.reads_name rfl
  · cases policy <;> rfl

theorem kept_resolveOptions {options : ResolveOptions} (h : options.maxDepth ≤ maxCount) :
    Kept options := by
  obtain ⟨policy, hpolicy, hvalue⟩ := kept_failurePolicy options.onFailure
  refine ⟨_, Shape.reads_ofFields (.there (Shape.reads_anyCount h) (.there hpolicy
    (.there (Shape.reads_flag options.fetchExplanation) .nil))) (by decide) rfl, ?_⟩
  show (Codec.ofJson? policy >>= fun policy =>
    some (⟨options.maxDepth, policy, options.fetchExplanation⟩ : ResolveOptions)) = some options
  rw [hvalue]
  rfl

theorem kept_resolverSettings {settings : ResolverSettings}
    (htimeout : settings.timeoutMs ≤ maxCount) (hattempts : settings.attempts ≤ maxCount) :
    Kept settings := by
  obtain ⟨servers, hservers, hvalue⟩ :=
    exists_reads_ofList fun server (_ : server ∈ settings.nameservers) => kept_string server
  refine ⟨_, Shape.reads_ofFields (.there hservers (.there (Shape.reads_anyCount htimeout)
    (.there (Shape.reads_anyCount hattempts) .nil))) (by decide) rfl, ?_⟩
  show (toList? servers >>= fun servers =>
    some (⟨servers, settings.timeoutMs, settings.attempts⟩ : ResolverSettings)) = some settings
  rw [hvalue]
  rfl

/-- A version that is absent is null, and not left out. -/
theorem kept_malformedReason (reason : MalformedReason) : Kept reason := by
  cases reason with
  | tooFewTokens => exact ⟨_, Shape.reads_name rfl, rfl⟩
  | invalidVersion version =>
    have hversion : (Shape.optional .string).Reads (orNull (version.map .str))
        (orNull (version.map .str)) := by
      cases version with
      | none => exact Shape.reads_optional_null _
      | some version => exact Shape.reads_optional (Shape.reads_string version) nofun
    refine ⟨_, Shape.reads_payload rfl
      (Shape.reads_ofFields (.there hversion .nil) (by decide) rfl), ?_⟩
    cases version <;> rfl

/-! ## Ranges of what is decoded -/

theorem held_resolveOptions : Held ResolveOptions fun options => options.maxDepth ≤ maxCount := by
  rintro json ⟨members, rfl, depth, _, rfl, ⟨n, rfl, hn⟩, policy, _, rfl, -, flag, _, rfl,
    ⟨b, rfl⟩, rfl⟩ options hvalue
  obtain ⟨_, -, hvalue⟩ := Option.bind_eq_some_iff.mp hvalue
  obtain rfl := Option.some.inj hvalue
  exact hn

theorem held_resolverSettings : Held ResolverSettings fun settings =>
    settings.timeoutMs ≤ maxCount ∧ settings.attempts ≤ maxCount := by
  rintro json ⟨members, rfl, servers, _, rfl, -, timeout, _, rfl, ⟨t, rfl, ht⟩, attempts, _, rfl,
    ⟨n, rfl, hn⟩, rfl⟩ settings hvalue
  obtain ⟨_, -, hvalue⟩ := Option.bind_eq_some_iff.mp hvalue
  obtain rfl := Option.some.inj hvalue
  exact ⟨ht, hn⟩

/-- The only count of an issue is the depth that was refused. -/
def Issue.InWords (issue : Issue) : Prop :=
  ∀ domain depth, issue = .depthExceeded domain depth → depth ≤ maxCount

theorem held_issue : Held Issue Issue.InWords := by
  rintro json hfits issue hvalue domain depth rfl
  rcases hfits with ⟨payload, rfl, members, rfl, _, _, rfl, ⟨s, rfl, -⟩, rfl⟩ |
    ⟨payload, rfl, members, rfl, _, _, rfl, ⟨s, rfl, -⟩, _, _, rfl, ⟨n, rfl, hn⟩, rfl⟩ |
    ⟨payload, rfl, members, rfl, _, _, rfl, ⟨s, rfl, -⟩, _, _, rfl, ⟨t, rfl, -⟩, rfl⟩ |
    ⟨payload, rfl, members, rfl, _, _, rfl, ⟨s, rfl, -⟩, _, _, rfl, ⟨t, rfl, -⟩, rfl⟩ |
    ⟨payload, rfl, members, rfl, _, _, rfl, ⟨s, rfl, -⟩, rfl⟩ | hnone
  · cases hvalue
  · cases hvalue
    exact hn
  · cases hvalue
  · cases hvalue
  · cases hvalue
  · exact hnone.elim

/-! ## The types -/

/-- Every type that records and settings are made of comes back from its JSON. -/
theorem components_roundTrip :
    RoundTrips Address (fun _ => True) ∧
    RoundTrips Network (fun n => n.prefixLength ≤ 255) ∧
    RoundTrips Answer (fun _ => True) ∧
    RoundTrips ResolverSettings (fun settings =>
      settings.timeoutMs ≤ 2 ^ 64 - 1 ∧ settings.attempts ≤ 2 ^ 64 - 1) ∧
    RoundTrips ResolveOptions (fun options => options.maxDepth ≤ 2 ^ 64 - 1) ∧
    RoundTrips MalformedReason (fun _ => True) ∧
    RoundTrips PolicyEntry (fun _ => True) ∧
    RoundTrips Issue (fun issue =>
      ∀ domain depth, issue = .depthExceeded domain depth → depth ≤ 2 ^ 64 - 1) := by
  refine ⟨?address, ?network, ?answer, ?settings, ?options, ?reason, ?entry, ?issue⟩
  case address => exact roundTrips (by decide) (fun a _ => kept_address a) held_true
  case network => exact roundTrips (by decide) (fun n => kept_network) held_network
  case answer => exact roundTrips (by decide) (fun answer _ => kept_answer answer) held_true
  case settings =>
    exact roundTrips (by decide) (fun settings h => kept_resolverSettings h.1 h.2)
      held_resolverSettings
  case options =>
    exact roundTrips (by decide) (fun options => kept_resolveOptions) held_resolveOptions
  case reason =>
    exact roundTrips (by decide) (fun reason _ => kept_malformedReason reason) held_true
  case entry => exact roundTrips (by decide) (fun entry _ => kept_policyEntry entry) held_true
  case issue => exact roundTrips (by decide) (fun issue => kept_issue) held_issue

/-- Quotes, backslashes, control characters, the null character and characters past the basic plane
come back, and so does the largest word. -/
example : let issue : Issue := .depthExceeded "\"\\\n\x00\x1f𝄞" (2 ^ 64 - 1)
    decode (encode issue) = .ok issue :=
  decode_encode (kept_issue fun _ _ h => (Issue.depthExceeded.inj h).2 ▸ Nat.le_refl maxCount)

end SenderPolicy.Json
