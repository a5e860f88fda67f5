import SenderPolicy.Json.Codec.Basic
import SenderPolicy.Net.Literal

/-!
# Addresses and networks in JSON

An address is its text, read without forgiving blanks.  A network is read as plain data: its prefix
length is a byte, and nobody asks whether it fits the base address.
-/

namespace SenderPolicy.Json

instance : Codec Family where
  shape := .ofNames ["V4", "V6"]
  toJson
    | .v4 => .str "V4"
    | .v6 => .str "V6"
  ofJson?
    | .str "V4" => some .v4
    | .str "V6" => some .v6
    | _ => none

instance : Codec Address where
  shape := .text fun s => (Address.read? s.toList).isSome
  toJson a := .str a.text
  ofJson?
    | .str s => Address.read? s.toList
    | _ => none

instance : Codec Network where
  shape := .ofFields
    [("base_address", Codec.shape Address), ("prefix_len", .count Network.maxPrefixLength)]
  toJson n := .obj [("base_address", Codec.toJson n.base), ("prefix_len", .num n.prefixLength)]
  ofJson?
    | .obj [("base_address", base), ("prefix_len", .num n)] => do
      return ⟨← Codec.ofJson? base, n⟩
    | _ => none

end SenderPolicy.Json
