import ODataClient.Client.Address
import ODataClient.Client.Basic
import ODataClient.Client.Batch
import ODataClient.Client.Concurrent
import ODataClient.Client.Decoration
import ODataClient.Client.Pages
import ODataClient.Client.Token
import ODataClient.Filter.Cache
import ODataClient.Filter.Expr
import ODataClient.Filter.Render
import ODataClient.Http.Error
import ODataClient.Http.Message
import ODataClient.Json.Fields
import ODataClient.Json.Number
import ODataClient.Json.Syntax
import ODataClient.Json.Value
import ODataClient.Model.EntityName
import ODataClient.Model.Field
import ODataClient.Model.Guid
import ODataClient.Model.Literal
import ODataClient.Number.BinaryFloat
import ODataClient.Number.Notation
import ODataClient.Number.Shortest
import ODataClient.Proofs.Breaker.Counting
import ODataClient.Proofs.Breaker.OpenWindow
import ODataClient.Proofs.Breaker.Probes
import ODataClient.Proofs.Breaker.Rejection
import ODataClient.Proofs.Breaker.Shape
import ODataClient.Proofs.Breaker.Shared
import ODataClient.Proofs.Breaker.Stale
import ODataClient.Proofs.Client.Authorization
import ODataClient.Proofs.Client.BatchAnswers
import ODataClient.Proofs.Client.BatchReply
import ODataClient.Proofs.Client.BatchRequest
import ODataClient.Proofs.Client.Calls
import ODataClient.Proofs.Client.Cancellation
import ODataClient.Proofs.Client.Limits
import ODataClient.Proofs.Client.Links
import ODataClient.Proofs.Client.Outcome
import ODataClient.Proofs.Client.Pages
import ODataClient.Proofs.Client.Requests
import ODataClient.Proofs.Client.Together
import ODataClient.Proofs.Filter.Atoms
import ODataClient.Proofs.Filter.Coercions
import ODataClient.Proofs.Filter.Eviction
import ODataClient.Proofs.Filter.Grammar
import ODataClient.Proofs.Filter.LiteralText
import ODataClient.Proofs.Filter.Readability
import ODataClient.Proofs.Filter.Reader
import ODataClient.Proofs.Filter.Rendered
import ODataClient.Proofs.Filter.Workspace
import ODataClient.Proofs.Json.Numbers
import ODataClient.Proofs.Json.ReadBack
import ODataClient.Proofs.Json.Values
import ODataClient.Lookup
import ODataClient.Proofs.Model.LetterCase
import ODataClient.Proofs.Model.Plurals
import ODataClient.Proofs.Query.Aggregations
import ODataClient.Proofs.Query.Expansion
import ODataClient.Proofs.Query.InsertionOrder
import ODataClient.Proofs.Query.LastWrites
import ODataClient.Proofs.Query.Nesting
import ODataClient.Proofs.Query.QueryString
import ODataClient.Proofs.Query.Runs
import ODataClient.Proofs.Query.WireNames
import ODataClient.Proofs.Response.Bodies
import ODataClient.Proofs.Response.ErrorBody
import ODataClient.Proofs.Response.HeaderLookup
import ODataClient.Proofs.Response.Reading
import ODataClient.Proofs.Text.Percent
import ODataClient.Proofs.Time.WordTime
import ODataClient.Proofs.Transport.Alone
import ODataClient.Proofs.Transport.Backoff
import ODataClient.Proofs.Transport.Flights
import ODataClient.Proofs.Transport.Mailboxes
import ODataClient.Proofs.Transport.Overlap
import ODataClient.Proofs.Transport.Retries
import ODataClient.Proofs.Transport.Sequential
import ODataClient.Proofs.Transport.Settling
import ODataClient.Proofs.Url.Relative
import ODataClient.Proofs.Url.WebAddress
import ODataClient.Query.Aggregation
import ODataClient.Query.Basic
import ODataClient.Query.Error
import ODataClient.Query.Options
import ODataClient.Query.Projection
import ODataClient.Query.Step
import ODataClient.Response.Decoder
import ODataClient.Response.Envelope
import ODataClient.Response.Record
import ODataClient.Response.SubResponse
import ODataClient.Text.BidiClass
import ODataClient.Text.Blank
import ODataClient.Text.CharMap
import ODataClient.Text.CharSet
import ODataClient.Text.CombiningClass
import ODataClient.Text.Decomposition
import ODataClient.Text.Hexadecimal
import ODataClient.Text.Identifier
import ODataClient.Text.Joining
import ODataClient.Text.Lowercase
import ODataClient.Text.Mark
import ODataClient.Text.NormalForm
import ODataClient.Text.Percent
import ODataClient.Text.Quoted
import ODataClient.Text.Split
import ODataClient.Time.Calendar
import ODataClient.Time.Duration
import ODataClient.Transport.Breaker
import ODataClient.Transport.Mailbox
import ODataClient.Transport.Retry
import ODataClient.Transport.Schedule
import ODataClient.Transport.Send
import ODataClient.Url.Basic
import ODataClient.Url.Domain
import ODataClient.Url.Domain.Label
import ODataClient.Url.Domain.Reading
import ODataClient.Url.Host
import ODataClient.Url.Parse
import ODataClient.Url.Punycode
