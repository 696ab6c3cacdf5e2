import Blocklist.Command.Arguments
import Blocklist.Command.Folder
import Blocklist.Command.Plan
import Blocklist.Conversion.Action
import Blocklist.Conversion.Condition
import Blocklist.Conversion.Record
import Blocklist.Conversion.Run
import Blocklist.Decimal.Binary64
import Blocklist.Decimal.Shortest
import Blocklist.Declarative.Basic
import Blocklist.Declarative.Decode
import Blocklist.Declarative.Encode
import Blocklist.Digest
import Blocklist.Feature
import Blocklist.Filter.Alias
import Blocklist.Filter.Basic
import Blocklist.Filter.Line
import Blocklist.Filter.Listing
import Blocklist.Host.Address
import Blocklist.Host.Label
import Blocklist.Host.Punycode
import Blocklist.IdPool
import Blocklist.Json.Basic
import Blocklist.Json.Decode
import Blocklist.Json.Document
import Blocklist.Main
import Blocklist.Merge
import Blocklist.Quota
import Blocklist.Regex.Property
import Blocklist.Regex.Reader
import Blocklist.Regex.Tree
import Blocklist.Rejection
import Blocklist.Request
import Blocklist.Resource
import Blocklist.Rule.Basic
import Blocklist.Rule.Build
import Blocklist.Rule.Fault
import Blocklist.Rule.Group
import Blocklist.Rule.Header
import Blocklist.Rule.Negation
import Blocklist.Scan
import Blocklist.Settings
import Blocklist.SourceMap
import Blocklist.Text.Affix
import Blocklist.Text.Case
import Blocklist.Text.CaseTable
import Blocklist.Text.Letter
import Blocklist.Text.Percent
import Blocklist.Text.Quoted
import Blocklist.Text.Utf8
import Blocklist.Proofs.Merge.Families
import Blocklist.Proofs.Merge.Run
import Blocklist.Proofs.Conversion.Outcomes
import Blocklist.Proofs.Conversion.Batches
import Blocklist.Proofs.Conversion.Units
import Blocklist.Proofs.Quota.Apply
import Blocklist.Proofs.Conversion.Ids
import Blocklist.Proofs.Filter.Listing
import Blocklist.Proofs.Rule.Build
import Blocklist.Proofs.Scan
import Blocklist.Proofs.Conversion.Accounting
import Blocklist.Proofs.Conversion.Provenance
import Blocklist.Proofs.Quota.Positions
import Blocklist.Proofs.Quota.Reports
import Blocklist.Proofs.Conversion.Increments
import Blocklist.Proofs.Conversion.Pruning
import Blocklist.Proofs.Conversion.Reordering
import Blocklist.Proofs.Conversion.Badfilters
import Blocklist.Proofs.Conversion.Headers
import Blocklist.Proofs.Json.Layout
import Blocklist.Proofs.Declarative.RoundTrip
import Blocklist.Proofs.Command.Rulesets
import Blocklist.Proofs.IdPool.Sessions
import Blocklist.Proofs.Filter.Commas
import Blocklist.Proofs.Filter.Modifiers
import Blocklist.Proofs.Filter.OptionsCut
import Blocklist.Proofs.Filter.Signs
import Blocklist.Proofs.Host.Address
import Blocklist.Proofs.Filter.Reading
import Blocklist.Proofs.Filter.CanonicalText
import Blocklist.Proofs.Filter.Rereading
import Blocklist.Proofs.Alike
import Blocklist.Proofs.Feature
import Blocklist.Proofs.Rule.Spelling
import Blocklist.Proofs.Conversion.Cancellation
import Blocklist.Proofs.Rule.Marking
import Blocklist.Proofs.Merge.Effects
import Blocklist.Proofs.Conversion.WellFormed
import Blocklist.Proofs.Conversion.Types
import Blocklist.Proofs.Conversion.Values
import Blocklist.Proofs.Conversion.ModifierOrder
import Blocklist.Proofs.Filter.Tiling
import Blocklist.Proofs.Filter.Expansion
import Blocklist.Proofs.Rule.Recognition
import Blocklist.Proofs.Rule.Opposites
import Blocklist.Proofs.Scan.Caps
import Blocklist.Proofs.Merge.Settled
import Blocklist.Proofs.Quota.Comparison
import Blocklist.Proofs.Digest
import Blocklist.Proofs.IdPool.Salts
import Blocklist.Proofs.Digest.Separation
import Blocklist.Proofs.Host.Encoding
import Blocklist.Proofs.Host.Separators
import Blocklist.Proofs.Filter.SplitPlaces
