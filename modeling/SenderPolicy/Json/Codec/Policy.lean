import SenderPolicy.Json.Codec.Net
import SenderPolicy.Policy.Options
import SenderPolicy.Policy.Record
import SenderPolicy.Policy.Statement

/-!
# Policies in JSON

A record leaves out its explanation if it has none, and its issues if there are none.  When it is
read, the explanation may be missing and the issues may not.
-/

namespace SenderPolicy.Json

instance : Codec Action where
  shape := .ofNames ["Pass", "Fail", "SoftFail", "Neutral"]
  toJson
    | .pass => .str "Pass"
    | .fail => .str "Fail"
    | .softFail => .str "SoftFail"
    | .neutral => .str "Neutral"
  ofJson?
    | .str "Pass" => some .pass
    | .str "Fail" => some .fail
    | .str "SoftFail" => some .softFail
    | .str "Neutral" => some .neutral
    | _ => none

/-- The name of a tag in JSON. -/
def tagName : EntryTag → String
  | .ip4 => "Ip4"
  | .ip6 => "Ip6"
  | .a => "A"
  | .mx => "Mx"
  | .inclusion => "Include"
  | .redirection => "Redirect"
  | .existsTest => "Exists"
  | .pointer => "Ptr"
  | .explanation => "Exp"
  | .invalidNetwork => "InvalidNetwork"
  | .invalidAddress => "InvalidAddress"

instance : Codec EntryTag where
  shape := .ofNames (EntryTag.values.map tagName)
  toJson tag := .str (tagName tag)
  ofJson?
    | .str name => EntryTag.values.find? fun tag => tagName tag == name
    | _ => none

instance : Codec PolicyEntry where
  shape := .ofFields
    [("domain", .string), ("source", .string), ("prefix", Codec.shape EntryTag),
      ("value", .string)]
  toJson entry := .obj
    [("domain", .str entry.domain), ("source", .str entry.source),
      ("prefix", Codec.toJson entry.tag), ("value", .str entry.value)]
  ofJson?
    | .obj [("domain", .str domain), ("source", .str source), ("prefix", tag),
        ("value", .str value)] => do
      return ⟨domain, source, ← Codec.ofJson? tag, value⟩
    | _ => none

instance : Codec FailurePolicy where
  shape := .ofNames ["Tolerate", "Abort"]
  toJson
    | .tolerate => .str "Tolerate"
    | .abort => .str "Abort"
  ofJson?
    | .str "Tolerate" => some .tolerate
    | .str "Abort" => some .abort
    | _ => none

instance : Codec ResolveOptions where
  shape := .ofFields
    [("max_depth", .anyCount), ("resolver_errors", Codec.shape FailurePolicy),
      ("fetch_explanation", .flag)]
  toJson options := .obj
    [("max_depth", .num options.maxDepth), ("resolver_errors", Codec.toJson options.onFailure),
      ("fetch_explanation", .bool options.fetchExplanation)]
  ofJson?
    | .obj [("max_depth", .num maxDepth), ("resolver_errors", onFailure),
        ("fetch_explanation", .bool fetchExplanation)] => do
      return ⟨maxDepth, ← Codec.ofJson? onFailure, fetchExplanation⟩
    | _ => none

instance : Codec MalformedReason where
  shape := .variants
    (.unit "TooFewTokens"
      (.payload "InvalidVersion" (.ofFields [("version", .optional .string)]) .nil))
  toJson
    | .tooFewTokens => .str "TooFewTokens"
    | .invalidVersion version =>
      .obj [("InvalidVersion", .obj [("version", orNull (version.map .str))])]
  ofJson?
    | .str "TooFewTokens" => some .tooFewTokens
    | .obj [("InvalidVersion", .obj [("version", version)])] =>
      (asOptionalString? version).map .invalidVersion
    | _ => none

instance : Codec Issue where
  shape := .ofPayloads
    [("CycleDetected", .ofFields [("domain", .string)]),
      ("DepthExceeded", .ofFields [("domain", .string), ("depth", .anyCount)]),
      ("LookupFailed", .ofFields [("target", .string), ("message", .string)]),
      ("MalformedInclude", .ofFields [("domain", .string), ("message", .string)]),
      ("MissingRecord", .ofFields [("domain", .string)])]
  toJson
    | .cycleDetected domain => .obj [("CycleDetected", .obj [("domain", .str domain)])]
    | .depthExceeded domain depth =>
      .obj [("DepthExceeded", .obj [("domain", .str domain), ("depth", .num depth)])]
    | .lookupFailed target message =>
      .obj [("LookupFailed", .obj [("target", .str target), ("message", .str message)])]
    | .malformedInclude domain message =>
      .obj [("MalformedInclude", .obj [("domain", .str domain), ("message", .str message)])]
    | .missingRecord domain => .obj [("MissingRecord", .obj [("domain", .str domain)])]
  ofJson?
    | .obj [("CycleDetected", .obj [("domain", .str domain)])] => some (.cycleDetected domain)
    | .obj [("DepthExceeded", .obj [("domain", .str domain), ("depth", .num depth)])] =>
      some (.depthExceeded domain depth)
    | .obj [("LookupFailed", .obj [("target", .str target), ("message", .str message)])] =>
      some (.lookupFailed target message)
    | .obj [("MalformedInclude", .obj [("domain", .str domain), ("message", .str message)])] =>
      some (.malformedInclude domain message)
    | .obj [("MissingRecord", .obj [("domain", .str domain)])] => some (.missingRecord domain)
    | _ => none

instance : Codec KnownAddress where
  shape := .ofFields [("source", .string), ("address", Codec.shape Address)]
  toJson known := .obj [("source", .str known.origin), ("address", Codec.toJson known.address)]
  ofJson?
    | .obj [("source", .str origin), ("address", address)] => do
      return ⟨origin, ← Codec.ofJson? address⟩
    | _ => none

instance : Codec KnownNetwork where
  shape := .ofFields [("source", .string), ("network", Codec.shape Network)]
  toJson known := .obj [("source", .str known.origin), ("network", Codec.toJson known.network)]
  ofJson?
    | .obj [("source", .str origin), ("network", network)] => do
      return ⟨origin, ← Codec.ofJson? network⟩
    | _ => none

instance : Codec PolicyRecord where
  shape := .ofFields
    [("domain", .string), ("source", .string), ("raw", .string), ("version", .string),
      ("depth", .anyCount), ("final_action", Codec.shape Action),
      ("entries", .list (Codec.shape PolicyEntry)),
      ("ip_addresses", .list (Codec.shape KnownAddress)),
      ("ip_networks", .list (Codec.shape KnownNetwork)), ("explanation", .optional .string),
      ("issues", .list (Codec.shape Issue))]
  toJson record := object
    [member "domain" (.str record.domain), member "source" (.str record.source),
      member "raw" (.str record.raw), member "version" (.str record.version),
      member "depth" (.num record.depth), member "final_action" (Codec.toJson record.action),
      member "entries" (ofList record.entries), member "ip_addresses" (ofList record.addresses),
      member "ip_networks" (ofList record.networks),
      member? "explanation" (record.explanation.map .str),
      items? "issues" (record.issues.map Codec.toJson)]
  ofJson?
    | .obj [("domain", .str domain), ("source", .str source), ("raw", .str raw),
        ("version", .str version), ("depth", .num depth), ("final_action", action),
        ("entries", entries), ("ip_addresses", addresses), ("ip_networks", networks),
        ("explanation", explanation), ("issues", issues)] => do
      return {
        domain, source, raw, version, depth
        action := ← Codec.ofJson? action
        entries := ← toList? entries
        addresses := ← toList? addresses
        networks := ← toList? networks
        explanation := ← asOptionalString? explanation
        issues := ← toList? issues }
    | _ => none

end SenderPolicy.Json
