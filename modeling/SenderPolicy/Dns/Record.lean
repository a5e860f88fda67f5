import SenderPolicy.Net.Address.Basic

/-!
# Record types and answers

The five record types that are ever asked for, and the three kinds of value that an answer can
hold.  A value is told apart by its kind and not by the type that was asked for: an address that
turns up in the answer to a question about text is simply not a text.
-/

namespace SenderPolicy

/-- The record types that are asked for. -/
inductive RecordType where
  | a
  | aaaa
  | mx
  | cname
  | txt
  deriving DecidableEq, Repr

/-- The mnemonic of a record type. -/
def RecordType.mnemonic : RecordType → String
  | .a => "A"
  | .aaaa => "AAAA"
  | .mx => "MX"
  | .cname => "CNAME"
  | .txt => "TXT"

/-- One value of an answer. -/
inductive Answer where
  | address (address : Address)
  | name (name : String)
  | text (text : String)
  deriving DecidableEq

namespace Answer

/-- The address, if the value is one. -/
def address? : Answer → Option Address
  | .address a => some a
  | _ => none

/-- The name, if the value is one. -/
def name? : Answer → Option String
  | .name n => some n
  | _ => none

/-- The text, if the value is one. -/
def text? : Answer → Option String
  | .text t => some t
  | _ => none

end Answer

end SenderPolicy
