import Courier.Assoc
import Courier.Catalog.Basic
import Courier.Catalog.Listing
import Courier.Catalog.Shared
import Courier.Decode.Basic
import Courier.Decode.Enumeration
import Courier.Decode.Record
import Courier.Decode.Tagged
import Courier.Error
import Courier.Http.App
import Courier.Http.Content
import Courier.Http.Cors
import Courier.Http.MediaType
import Courier.Http.Message
import Courier.Http.Percent
import Courier.Http.Route
import Courier.Json.Basic
import Courier.Json.Fault
import Courier.Json.NumberText
import Courier.Json.Printer
import Courier.Json.Reader
import Courier.Json.Scan
import Courier.Metrics
import Courier.Number.Binary64
import Courier.Number.Decimal
import Courier.Number.Power
import Courier.Number.Shortest
import Courier.Session.Message
import Courier.Session.Recipient
import Courier.Session.StatusTarget
import Courier.Settings.Basic
import Courier.Settings.Document
import Courier.Settings.Dotenv
import Courier.Settings.Environment
import Courier.Settings.FileTree
import Courier.Settings.Layer
import Courier.Settings.Load
import Courier.Settings.Path
import Courier.Template.Basic
import Courier.Template.Collector
import Courier.Template.Compile
import Courier.Template.Compiling
import Courier.Template.Document
import Courier.Template.Error
import Courier.Template.Payload
import Courier.Template.Placeholder
import Courier.Template.Slot
import Courier.Template.SlotKey
import Courier.Template.Variables
import Courier.Text.Alphanumeric
import Courier.Text.Blank
import Courier.Text.Digit
import Courier.Text.Quoted
import Courier.Text.Ranges
import Courier.Text.Split
import Courier.Text.Unprintable
import Courier.Distinct
import Courier.Proofs.Template.SlotKey
import Courier.Proofs.Template.Piece
import Courier.Proofs.Template.Concatenation
import Courier.Proofs.Template.Keys
import Courier.Proofs.Template.Coverage
import Courier.Proofs.Template.Entry
import Courier.Proofs.Template.Arrival
import Courier.Proofs.Template.Occurrence
import Courier.Proofs.Template.Order
import Courier.Proofs.Template.Collision
import Courier.Proofs.Template.Report
import Courier.Proofs.Assoc
import Courier.Proofs.Catalog.Shelf
import Courier.Proofs.Catalog.Refinement
import Courier.Proofs.Catalog.Interleaving
import Courier.Proofs.Catalog.Load
import Courier.Proofs.Catalog.Lookup
import Courier.Proofs.Json.Normal
import Courier.Proofs.Json.Run
import Courier.Proofs.Json.Scalar
import Courier.Proofs.Json.Nesting
import Courier.Proofs.Json.Ignored
import Courier.Proofs.Decode.Text
import Courier.Proofs.Decode.Order
import Courier.Proofs.Decode.Level
import Courier.Proofs.Template.Reading
import Courier.Proofs.Json.RoundTrip
import Courier.Proofs.Template.FlowData
import Courier.Proofs.Decode.Image
import Courier.Proofs.Decode.Restore
import Courier.Proofs.Decode.Flattened
import Courier.Proofs.Template.Document
import Courier.Proofs.Template.Wire
import Courier.Proofs.Catalog.Export
import Courier.Proofs.Http.Address
import Courier.Proofs.Http.Outcome
import Courier.Proofs.Http.Handling
import Courier.Proofs.Http.Access
import Courier.Proofs.Http.Query
import Courier.Proofs.Http.Reference
import Courier.Proofs.Http.BodySize
import Courier.Proofs.Http.Reachable
import Courier.Proofs.Http.Origin
import Courier.Proofs.Http.Encoding
import Courier.Proofs.Http.Retrieval
import Courier.Proofs.Http.Accounting
import Courier.Proofs.Template.Span
import Courier.Proofs.Json.Part
import Courier.Proofs.Decode.Tolerance
import Courier.Proofs.Decode.Focus
import Courier.Proofs.Template.Evolution
import Courier.Proofs.Canonical
import Courier.Proofs.Distinct
import Courier.Proofs.Template.Mention
import Courier.Proofs.Template.TextPart
import Courier.Proofs.Template.Position
import Courier.Proofs.Text.Trim
import Courier.Proofs.Session.Recipient
import Courier.Proofs.Text.Digit
import Courier.Proofs.Text.Bytes
import Courier.Proofs.Number.Decimal
import Courier.Proofs.Session.Normalization
import Courier.Proofs.Session.StatusTarget
import Courier.Proofs.Catalog.View
import Courier.Proofs.Decode.Values
import Courier.Proofs.Decode.Misshapen
import Courier.Proofs.Http.Source
import Courier.Proofs.Template.Sample
import Courier.Proofs.Decode.Tag
import Courier.Proofs.Template.Carousel
import Courier.Proofs.Settings.Spelling
import Courier.Proofs.Settings.ApiKey
import Courier.Proofs.Settings.Leaves
import Courier.Proofs.Settings.View
import Courier.Proofs.Settings.Reading
import Courier.Proofs.Settings.Masking
import Courier.Proofs.Template.Search
import Courier.Proofs.Template.Collector
import Courier.Proofs.Template.Compiling
