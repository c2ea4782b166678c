import AdminConsole.Api.Call
import AdminConsole.Api.Error
import AdminConsole.Api.Flight
import AdminConsole.Api.Memory
import AdminConsole.Api.Plan
import AdminConsole.Batch.Outcome
import AdminConsole.Batch.Run
import AdminConsole.Command.Fault
import AdminConsole.Command.Line
import AdminConsole.Command.Location
import AdminConsole.Command.Program
import AdminConsole.Command.Reader
import AdminConsole.Command.Report
import AdminConsole.Command.Run
import AdminConsole.Command.Slot
import AdminConsole.Command.Value
import AdminConsole.Console.Config
import AdminConsole.DeleteDetails
import AdminConsole.Dict
import AdminConsole.Http.Message
import AdminConsole.Http.Request
import AdminConsole.Http.Response
import AdminConsole.Json.Decode
import AdminConsole.Json.Double
import AdminConsole.Json.Number
import AdminConsole.Json.Parser
import AdminConsole.Json.Printer
import AdminConsole.Json.Value
import AdminConsole.Logging.Filter
import AdminConsole.Logging.Journal
import AdminConsole.Logging.Pattern
import AdminConsole.Main
import AdminConsole.Proofs.Api.Contract
import AdminConsole.Proofs.Api.Deletion
import AdminConsole.Proofs.Api.Landing
import AdminConsole.Proofs.Api.Lookup
import AdminConsole.Proofs.Api.Memory
import AdminConsole.Proofs.Api.Messages
import AdminConsole.Proofs.Api.Reading
import AdminConsole.Proofs.Api.Schedule
import AdminConsole.Proofs.Api.Wire
import AdminConsole.Proofs.Batch.History
import AdminConsole.Proofs.Batch.Outcome
import AdminConsole.Proofs.Batch.Overlap
import AdminConsole.Proofs.Batch.PagingBack
import AdminConsole.Proofs.Command.Ids
import AdminConsole.Proofs.Command.Listing
import AdminConsole.Proofs.Command.Removal
import AdminConsole.Proofs.DeleteDetails
import AdminConsole.Proofs.DeleteDetails.Timing
import AdminConsole.Proofs.Dict
import AdminConsole.Proofs.Except
import AdminConsole.Proofs.Http.Destination
import AdminConsole.Proofs.Json.Layout
import AdminConsole.Proofs.Json.Parsing
import AdminConsole.Proofs.Json.Record
import AdminConsole.Proofs.Query.Canonical
import AdminConsole.Proofs.Query.NormalForm
import AdminConsole.Proofs.Query.Reading
import AdminConsole.Proofs.Query.Rewriting
import AdminConsole.Proofs.Query.RoundTrip
import AdminConsole.Proofs.Query.Sharing
import AdminConsole.Proofs.Query.Synonyms
import AdminConsole.Proofs.Query.Writing
import AdminConsole.Proofs.Request.History
import AdminConsole.Proofs.Request.LastWins
import AdminConsole.Proofs.Request.Loading
import AdminConsole.Proofs.Resource.Rereading
import AdminConsole.Proofs.Resource.Trimming
import AdminConsole.Proofs.Screen.Deleting
import AdminConsole.Proofs.Screen.FanOut
import AdminConsole.Proofs.Screen.InMemory
import AdminConsole.Proofs.Screen.InStep
import AdminConsole.Proofs.Screen.Location
import AdminConsole.Proofs.Screen.Owed
import AdminConsole.Proofs.Screen.Readiness
import AdminConsole.Proofs.Screen.Stepwise
import AdminConsole.Proofs.Screen.Stranding
import AdminConsole.Proofs.Screen.Turns
import AdminConsole.Proofs.Screen.Working
import AdminConsole.Proofs.Search.Chips
import AdminConsole.Proofs.Search.Edits
import AdminConsole.Proofs.Search.FilterKeys
import AdminConsole.Proofs.Search.Repeated
import AdminConsole.Proofs.Search.Rows
import AdminConsole.Proofs.Search.Undoing
import AdminConsole.Proofs.Selection
import AdminConsole.Proofs.Text.ByteOrder
import AdminConsole.Proofs.Text.Integer
import AdminConsole.Proofs.Text.Percent
import AdminConsole.Proofs.Text.Pieces
import AdminConsole.Proofs.Url.Origin
import AdminConsole.Query.Combine
import AdminConsole.Query.Location
import AdminConsole.Query.Scope
import AdminConsole.Query.Value
import AdminConsole.Request.Run
import AdminConsole.Request.State
import AdminConsole.Resource.Item
import AdminConsole.Resource.Kind
import AdminConsole.Resource.Listing
import AdminConsole.Resource.Schema
import AdminConsole.Screen.Operation
import AdminConsole.Screen.Run
import AdminConsole.Screen.State
import AdminConsole.Search.Edit
import AdminConsole.Search.FilterKey
import AdminConsole.Search.Lookup
import AdminConsole.Search.Toolbar
import AdminConsole.Selection
import AdminConsole.Session
import AdminConsole.Text.Bytes
import AdminConsole.Text.Composed
import AdminConsole.Text.Composite
import AdminConsole.Text.Integer
import AdminConsole.Text.Letter
import AdminConsole.Text.Mark
import AdminConsole.Text.Percent
import AdminConsole.Text.Pieces
import AdminConsole.Text.Quoted
import AdminConsole.Text.Ranges
import AdminConsole.Url.Basic
import AdminConsole.Url.Domain
import AdminConsole.Url.Domain.Direction
import AdminConsole.Url.Domain.Folding
import AdminConsole.Url.Domain.Joining
import AdminConsole.Url.Host
import AdminConsole.Url.Punycode
import AdminConsole.Url.Resolve
