import SenderPolicy.Dns.Record
import SenderPolicy.Dns.Settings
import SenderPolicy.Json.Codec.Net

/-!
# Answers and resolver settings in JSON
-/

namespace SenderPolicy.Json

instance : Codec RecordType where
  shape := .ofNames ["A", "Aaaa", "Mx", "Cname", "Txt"]
  toJson
    | .a => .str "A"
    | .aaaa => .str "Aaaa"
    | .mx => .str "Mx"
    | .cname => .str "Cname"
    | .txt => .str "Txt"
  ofJson?
    | .str "A" => some .a
    | .str "Aaaa" => some .aaaa
    | .str "Mx" => some .mx
    | .str "Cname" => some .cname
    | .str "Txt" => some .txt
    | _ => none

instance : Codec Answer where
  shape := .ofPayloads
    [("Address", Codec.shape Address), ("Name", .string), ("Text", .string)]
  toJson
    | .address a => .obj [("Address", Codec.toJson a)]
    | .name s => .obj [("Name", .str s)]
    | .text s => .obj [("Text", .str s)]
  ofJson?
    | .obj [("Address", a)] => (Codec.ofJson? a).map .address
    | .obj [("Name", .str s)] => some (.name s)
    | .obj [("Text", .str s)] => some (.text s)
    | _ => none

instance : Codec ResolverSettings where
  shape := .ofFields
    [("nameservers", .list .string), ("timeout_ms", .anyCount), ("attempts", .anyCount)]
  toJson settings := .obj
    [("nameservers", ofList settings.nameservers), ("timeout_ms", .num settings.timeoutMs),
      ("attempts", .num settings.attempts)]
  ofJson?
    | .obj [("nameservers", servers), ("timeout_ms", .num timeoutMs),
        ("attempts", .num attempts)] => do
      return ⟨← toList? servers, timeoutMs, attempts⟩
    | _ => none

end SenderPolicy.Json
