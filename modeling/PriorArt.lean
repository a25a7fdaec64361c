import PriorArt.CommandLine.Arguments
import PriorArt.CommandLine.Command
import PriorArt.Config.Basic
import PriorArt.Config.Check
import PriorArt.Config.Load
import PriorArt.Config.Settings
import PriorArt.Json.Basic
import PriorArt.Json.Decode
import PriorArt.Json.Printer
import PriorArt.Json.Reader
import PriorArt.Keyed
import PriorArt.Landscape.Narrative
import PriorArt.Landscape.Reconcile
import PriorArt.Landscape.Statistics
import PriorArt.Landscape.Tally
import PriorArt.Main
import PriorArt.Number.Binary64
import PriorArt.Number.Decimal
import PriorArt.Number.Radix
import PriorArt.Number.Shortest
import PriorArt.Order
import PriorArt.Patent.Assessment
import PriorArt.Patent.Listing
import PriorArt.Patent.Order
import PriorArt.Patent.Record
import PriorArt.Prompt.Assessment
import PriorArt.Prompt.Landscape
import PriorArt.Prompt.Strategy
import PriorArt.Prompt.Text
import PriorArt.Proofs.Distinct
import PriorArt.Proofs.Query.Parts
import PriorArt.Proofs.Query.Identifiers
import PriorArt.Proofs.Search.Answers
import PriorArt.Proofs.Search.Trail
import PriorArt.Provider.Address
import PriorArt.Provider.Client
import PriorArt.Provider.ContentType
import PriorArt.Provider.Failure
import PriorArt.Provider.Framing
import PriorArt.Provider.Head
import PriorArt.Provider.Header
import PriorArt.Provider.Host
import PriorArt.Provider.Http
import PriorArt.Provider.Percent
import PriorArt.Query.Plan
import PriorArt.Query.Tokens
import PriorArt.Run.Analysis
import PriorArt.Run.Assessment
import PriorArt.Run.Clock
import PriorArt.Run.Error
import PriorArt.Run.Gate
import PriorArt.Run.Inquiry
import PriorArt.Run.Planning
import PriorArt.Run.Report
import PriorArt.Run.Request
import PriorArt.Run.Search
import PriorArt.Run.Session
import PriorArt.Run.Stage
import PriorArt.Strategy.Cpc
import PriorArt.Strategy.Document
import PriorArt.Strategy.Normalize
import PriorArt.Text.Base64
import PriorArt.Text.Blank
import PriorArt.Text.Casing
import PriorArt.Text.Charset
import PriorArt.Text.Charset.Basic
import PriorArt.Text.Charset.Big5
import PriorArt.Text.Charset.Big5Grid
import PriorArt.Text.Charset.CodePage
import PriorArt.Text.Charset.Gb18030
import PriorArt.Text.Charset.Gb18030Ranges
import PriorArt.Text.Charset.Gb2312
import PriorArt.Text.Charset.Grid
import PriorArt.Text.Charset.Japanese
import PriorArt.Text.Charset.JisX0208
import PriorArt.Text.Charset.JisX0212
import PriorArt.Text.Charset.Korean
import PriorArt.Text.Charset.KsX1001
import PriorArt.Text.Charset.Unicode
import PriorArt.Text.Fence
import PriorArt.Text.Lowercase
import PriorArt.Text.Printable
import PriorArt.Text.Quoted
import PriorArt.Text.Ranges
import PriorArt.Text.Utf8
import PriorArt.Toml.Moment
import PriorArt.Toml.Printer
import PriorArt.Toml.Reader
import PriorArt.Toml.Scalar
import PriorArt.Toml.Table
import PriorArt.Violation
import PriorArt.Proofs.Search.Outcome
import PriorArt.Proofs.Cancellation.Session
import PriorArt.Proofs.Cancellation.Stages
import PriorArt.Proofs.Cancellation.Inquiry
import PriorArt.Proofs.Inquiry.Stages
import PriorArt.Proofs.Inquiry.Outcome
import PriorArt.Proofs.Inquiry.Shapes
import PriorArt.Proofs.Replies
import PriorArt.Proofs.Strategy.Normal
import PriorArt.Proofs.Assessment.Batches
import PriorArt.Proofs.Landscape.References
import PriorArt.Proofs.Search.References
import PriorArt.Proofs.Inquiry.References
import PriorArt.Proofs.Search.Hits
import PriorArt.Proofs.Search.Verdict
import PriorArt.Proofs.Assessment.Conservation
import PriorArt.Proofs.Faults.Search
import PriorArt.Proofs.Faults.Stages
import PriorArt.Proofs.Faults.Inquiry
import PriorArt.Proofs.Query.Composition
import PriorArt.Proofs.Search.Rate
import PriorArt.Proofs.Assessment.Tally
import PriorArt.Proofs.Inquiry.Trace
import PriorArt.Proofs.Inquiry.Disclosure
import PriorArt.Proofs.Assessment.Arrangement
import PriorArt.Proofs.Landscape.Reconciliation
import PriorArt.Proofs.Landscape.Consistency
import PriorArt.Proofs.Landscape.Corrections
import PriorArt.Proofs.Landscape.Fixpoint
import PriorArt.Proofs.Landscape.Counts
import PriorArt.Proofs.Landscape.Arrangement
import PriorArt.Proofs.Landscape.Entries
import PriorArt.Proofs.Session.Attempts
import PriorArt.Proofs.Gate.Permits
import PriorArt.Proofs.Search.Retries
import PriorArt.Proofs.Search.Accounts
import PriorArt.Proofs.Stage.Outcomes
import PriorArt.Proofs.Stage.Fences
import PriorArt.Proofs.Config.Loading
import PriorArt.Proofs.Documents.Restoration
import PriorArt.Proofs.Strategy.Form
import PriorArt.Proofs.Assessment.Lockstep
import PriorArt.Proofs.Query.Tokens
import PriorArt.Proofs.Query.Groups
import PriorArt.Proofs.Query.Broad
import PriorArt.Proofs.Query.Normalization
