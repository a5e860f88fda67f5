import SenderPolicy.Net.Literal
import SenderPolicy.Policy.Action

/-!
# What a resolved policy holds

A `PolicyRecord` is one policy text with everything that was found on its behalf.  `domain` is the
domain whose policy was asked for, the same on every record of a resolution; `source` is the name
that published this text.  Its entries show the text clause by clause; its addresses and networks
are what it authorises; its issues are what went wrong without stopping the resolution.

Every address and network remembers its origin: the publishing name for one that the text gives
literally, and the host with the clause for one that a lookup brought.
-/

namespace SenderPolicy

/-- What an entry of a record is. -/
inductive EntryTag where
  | ip4
  | ip6
  | a
  | mx
  | inclusion
  | redirection
  | existsTest
  | pointer
  | explanation
  | invalidNetwork
  | invalidAddress
  deriving DecidableEq, Repr

namespace EntryTag

/-- The word for a tag in reports. -/
def word : EntryTag → String
  | ip4 => "ip4"
  | ip6 => "ip6"
  | a => "a"
  | mx => "mx"
  | inclusion => "include"
  | redirection => "redirect"
  | existsTest => "exists"
  | pointer => "ptr"
  | explanation => "exp"
  | invalidNetwork => "InvalidNetwork"
  | invalidAddress => "InvalidAddress"

/-- Whether the tag marks something that could not be used. -/
def isInvalid : EntryTag → Bool
  | invalidNetwork => true
  | invalidAddress => true
  | _ => false

/-- All tags. -/
def values : List EntryTag :=
  [ip4, ip6, a, mx, inclusion, redirection, existsTest, pointer, explanation, invalidNetwork,
    invalidAddress]

/-- The tag that a word names. -/
def ofWord? (word : String) : Option EntryTag :=
  values.find? fun tag => tag.word == word

end EntryTag

/-- One clause of a policy text as it was understood. -/
structure PolicyEntry where
  domain : String
  source : String
  tag : EntryTag
  value : String
  deriving DecidableEq, Repr

/-- An entry in one line. -/
def PolicyEntry.text (entry : PolicyEntry) : String :=
  entry.tag.word ++ " " ++ entry.value

/-- An authorised address. -/
structure KnownAddress where
  origin : String
  address : Address
  deriving DecidableEq

/-- An authorised network. -/
structure KnownNetwork where
  origin : String
  network : Network
  deriving DecidableEq

/-- The network of a given prefix length that has the address as its base. -/
def KnownAddress.toNetwork (known : KnownAddress) (prefixLength : Nat) :
    Except NetError KnownNetwork :=
  (Network.mask known.address prefixLength false).map fun network => ⟨known.origin, network⟩

/-- What went wrong without stopping the resolution. -/
inductive Issue where
  /-- A policy leads to a name that has been expanded already. -/
  | cycleDetected (domain : String)
  /-- A policy leads deeper than allowed; `depth` is the depth that was refused. -/
  | depthExceeded (domain : String) (depth : Nat)
  /-- A lookup failed. -/
  | lookupFailed (target : String) (message : String)
  /-- A text published under a name is not a policy. -/
  | malformedInclude (domain : String) (message : String)
  /-- A name publishes no policy. -/
  | missingRecord (domain : String)
  deriving DecidableEq, Repr

/-- The message shown to the user. -/
def Issue.text : Issue → String
  | .cycleDetected domain => "cycle detected at " ++ domain
  | .depthExceeded domain depth => "depth " ++ depth.repr ++ " exceeded before " ++ domain
  | .lookupFailed target message => "lookup failed for " ++ target ++ ": " ++ message
  | .malformedInclude domain message => "malformed record at " ++ domain ++ ": " ++ message
  | .missingRecord domain => "no SPF record at " ++ domain

/-- One policy text with everything that was found on its behalf. -/
structure PolicyRecord where
  domain : String
  source : String
  raw : String
  version : String
  depth : Nat
  action : Action
  entries : List PolicyEntry
  addresses : List KnownAddress
  networks : List KnownNetwork
  explanation : Option String
  issues : List Issue
  deriving DecidableEq

namespace PolicyRecord

/-- The record in one line. -/
def text (record : PolicyRecord) : String :=
  "Source: " ++ record.source ++ " Record: " ++ record.raw

/-- The entries with a tag. -/
def entriesWith (record : PolicyRecord) (tag : EntryTag) : List PolicyEntry :=
  record.entries.filter (·.tag == tag)

/-- Whether something in the text could not be used. -/
def hasInvalidEntries (record : PolicyRecord) : Bool :=
  record.entries.any (·.tag.isInvalid)

/-- Whether the record authorises the address: it is one of the addresses, or lies in one of the
networks. -/
def contains (record : PolicyRecord) (address : Address) : Bool :=
  record.addresses.any (·.address == address) || record.networks.any (·.network.contains address)

theorem contains_iff {record : PolicyRecord} {address : Address} :
    record.contains address = true ↔
      (∃ known ∈ record.addresses, known.address = address) ∨
        ∃ known ∈ record.networks, known.network.contains address = true := by
  simp [contains]

end PolicyRecord

end SenderPolicy
