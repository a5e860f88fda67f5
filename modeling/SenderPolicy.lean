import SenderPolicy.CommandLine.Arguments
import SenderPolicy.CommandLine.Help
import SenderPolicy.CommandLine.Run
import SenderPolicy.Dns.Encoding
import SenderPolicy.Dns.LookupError
import SenderPolicy.Dns.Name
import SenderPolicy.Dns.Record
import SenderPolicy.Dns.Resolver
import SenderPolicy.Dns.Settings
import SenderPolicy.Dns.Traced
import SenderPolicy.Dns.Zone
import SenderPolicy.Idna.Composition
import SenderPolicy.Idna.Direction
import SenderPolicy.Idna.Domain
import SenderPolicy.Idna.Joining
import SenderPolicy.Idna.Label
import SenderPolicy.Idna.Mapping
import SenderPolicy.Idna.Punycode
import SenderPolicy.Idna.Table
import SenderPolicy.Idna.Table.Combining
import SenderPolicy.Idna.Table.Decomposition
import SenderPolicy.Idna.Table.Direction
import SenderPolicy.Idna.Table.Joining
import SenderPolicy.Idna.Table.Mapping
import SenderPolicy.Idna.Table.Mark
import SenderPolicy.Json.Codec.Basic
import SenderPolicy.Json.Codec.Dns
import SenderPolicy.Json.Codec.Net
import SenderPolicy.Json.Codec.Policy
import SenderPolicy.Json.Scan
import SenderPolicy.Json.Shape
import SenderPolicy.Json.Value
import SenderPolicy.Main
import SenderPolicy.Net.Address.Basic
import SenderPolicy.Net.Address.Parser
import SenderPolicy.Net.Address.Printer
import SenderPolicy.Net.Error
import SenderPolicy.Net.Literal
import SenderPolicy.Net.Network
import SenderPolicy.Policy.Action
import SenderPolicy.Policy.Error
import SenderPolicy.Policy.Expansion
import SenderPolicy.Policy.Findings
import SenderPolicy.Policy.HostMask
import SenderPolicy.Policy.Literal
import SenderPolicy.Policy.Options
import SenderPolicy.Policy.Record
import SenderPolicy.Policy.Resolution
import SenderPolicy.Policy.Statement
import SenderPolicy.Policy.Term
import SenderPolicy.Proofs.Dns.Adjustments
import SenderPolicy.Proofs.Expansion.Abort
import SenderPolicy.Proofs.Expansion.Accounting
import SenderPolicy.Proofs.Expansion.Adequacy
import SenderPolicy.Proofs.Expansion.Alongside
import SenderPolicy.Proofs.Expansion.Authorisation
import SenderPolicy.Proofs.Expansion.Course
import SenderPolicy.Proofs.Expansion.Coverage
import SenderPolicy.Proofs.Expansion.Deliveries
import SenderPolicy.Proofs.Expansion.DepthLimit
import SenderPolicy.Proofs.Expansion.Entries
import SenderPolicy.Proofs.Expansion.FailedLookups
import SenderPolicy.Proofs.Expansion.Finality
import SenderPolicy.Proofs.Expansion.Inquiries
import SenderPolicy.Proofs.Expansion.Inventory
import SenderPolicy.Proofs.Expansion.Ledger
import SenderPolicy.Proofs.Expansion.MalformedTexts
import SenderPolicy.Proofs.Expansion.Masks
import SenderPolicy.Proofs.Expansion.Nesting
import SenderPolicy.Proofs.Expansion.Networks
import SenderPolicy.Proofs.Expansion.Noted
import SenderPolicy.Proofs.Expansion.PlusSigns
import SenderPolicy.Proofs.Expansion.Precedence
import SenderPolicy.Proofs.Expansion.Preorder
import SenderPolicy.Proofs.Expansion.Records
import SenderPolicy.Proofs.Expansion.Reduction
import SenderPolicy.Proofs.Expansion.Refusals
import SenderPolicy.Proofs.Expansion.Siblings
import SenderPolicy.Proofs.Expansion.Tolerance
import SenderPolicy.Proofs.Expansion.Trail
import SenderPolicy.Proofs.Expansion.Validity
import SenderPolicy.Proofs.Expansion.Visited
import SenderPolicy.Proofs.Expansion.Walk
import SenderPolicy.Proofs.Idna.Ascii
import SenderPolicy.Proofs.Json.Brackets
import SenderPolicy.Proofs.Json.Components
import SenderPolicy.Proofs.Json.DecodedNetworks
import SenderPolicy.Proofs.Json.Lexical
import SenderPolicy.Proofs.Json.Reading
import SenderPolicy.Proofs.Json.RoundTrip
import SenderPolicy.Proofs.Json.Settled
import SenderPolicy.Proofs.Json.Values
import SenderPolicy.Proofs.Net.Grammar
import SenderPolicy.Proofs.Net.Interval
import SenderPolicy.Proofs.Net.Labels
import SenderPolicy.Proofs.Net.Made
import SenderPolicy.Proofs.Net.Masking
import SenderPolicy.Proofs.Net.NetworkText
import SenderPolicy.Proofs.Net.Prefix
import SenderPolicy.Proofs.Net.Spelling
import SenderPolicy.Proofs.Net.Word
import SenderPolicy.Proofs.Net.Written
import SenderPolicy.Proofs.Policy.Domains
import SenderPolicy.Proofs.Policy.HostTokens
import SenderPolicy.Proofs.Policy.LetterCase
import SenderPolicy.Proofs.Policy.Names
import SenderPolicy.Proofs.Policy.Qualifiers
import SenderPolicy.Proofs.Policy.Tokens
import SenderPolicy.Proofs.Policy.WellFormed
import SenderPolicy.Proofs.Report.CsvReading
import SenderPolicy.Proofs.Report.Lines
import SenderPolicy.Proofs.Report.Table
import SenderPolicy.Proofs.Report.Verdict
import SenderPolicy.Proofs.Text.Fields
import SenderPolicy.Proofs.Text.Numeral
import SenderPolicy.Proofs.Text.Trimming
import SenderPolicy.Report.Basic
import SenderPolicy.Report.Csv
import SenderPolicy.Report.Data
import SenderPolicy.Report.Format
import SenderPolicy.Report.Human
import SenderPolicy.Text.AsciiCase
import SenderPolicy.Text.Blank
import SenderPolicy.Text.Cut
import SenderPolicy.Text.Numeral
