import VariantStore.Body.Payload
import VariantStore.Body.Source
import VariantStore.Body.Streams
import VariantStore.Decimal.Binary64
import VariantStore.Decimal.Shortest
import VariantStore.Json.Fault
import VariantStore.Json.Number
import VariantStore.Json.StringLiteral
import VariantStore.Message.Headers
import VariantStore.Message.Request
import VariantStore.Message.Response
import VariantStore.Message.Status
import VariantStore.Message.Wire
import VariantStore.Recency.BoundedMap
import VariantStore.Selection.Key
import VariantStore.Selection.Selector
import VariantStore.Settings.Basic
import VariantStore.Settings.Document
import VariantStore.Store.Basic
import VariantStore.Store.Event
import VariantStore.Store.Item
import VariantStore.Store.Strategy
import VariantStore.Text.Ascii
import VariantStore.Text.Blank
import VariantStore.Text.Quoted
import VariantStore.Text.Utf8
import VariantStore.Unicode.CombiningClass
import VariantStore.Unicode.Decomposition
import VariantStore.Unicode.Direction
import VariantStore.Unicode.HostMapping
import VariantStore.Unicode.Joining
import VariantStore.Unicode.Mark
import VariantStore.Unicode.Normalization
import VariantStore.Unicode.Printable
import VariantStore.Unicode.Table
import VariantStore.Uri.Basic
import VariantStore.Uri.Cleaning
import VariantStore.Uri.Domain
import VariantStore.Uri.Ipv4
import VariantStore.Uri.Ipv6
import VariantStore.Uri.Parser
import VariantStore.Uri.Percent
import VariantStore.Uri.Punycode
import VariantStore.Uri.Resource
import VariantStore.Uri.Scheme
import VariantStore.Uri.Segments
import VariantStore.Proofs.Recency.BoundedMap
import VariantStore.Proofs.Store.Layout
import VariantStore.Proofs.Body.Reading
import VariantStore.Proofs.Message.Framing
import VariantStore.Proofs.Store.Steps
import VariantStore.Proofs.Store.Run
import VariantStore.Proofs.Store.Bounds
import VariantStore.Proofs.Store.Growth
import VariantStore.Proofs.Selection.Negotiation
import VariantStore.Proofs.Store.History
import VariantStore.Proofs.Store.Lookup
import VariantStore.Proofs.Store.Distance
import VariantStore.Proofs.Store.Retention
import VariantStore.Proofs.Store.Buffering
import VariantStore.Proofs.Store.Insertion
import VariantStore.Proofs.Store.Replay
import VariantStore.Proofs.Message.Reader
import VariantStore.Proofs.Message.RoundTrip
import VariantStore.Proofs.Recency.Eviction
import VariantStore.Proofs.Store.Account
import VariantStore.Proofs.Selection.Filing
import VariantStore.Proofs.Selection.Edits
import VariantStore.Proofs.Store.Overwriting
import VariantStore.Proofs.Store.Observation
import VariantStore.Proofs.Body.Sharing
import VariantStore.Proofs.Store.SingleUse
import VariantStore.Proofs.Body.Collecting
import VariantStore.Proofs.Selection.Canonical
import VariantStore.Proofs.Store.Completeness
import VariantStore.Proofs.Store.Removal
import VariantStore.Proofs.Selection.Order
import VariantStore.Proofs.Store.Snapshot
import VariantStore.Proofs.Store.Reinsertion
import VariantStore.Proofs.Recency.Actions
import VariantStore.Proofs.Recency.Fates
import VariantStore.Proofs.Recency.Numbering
import VariantStore.Proofs.Recency.Agreement
import VariantStore.Proofs.Message.Multimap
import VariantStore.Proofs.Selection.Rebuilding
import VariantStore.Proofs.Store.Addressing
import VariantStore.Proofs.Json.Reading
import VariantStore.Proofs.Settings.Documents
import VariantStore.Proofs.Settings.RoundTrip
