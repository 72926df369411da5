import InferenceGateway.Auth.Caller
import InferenceGateway.Auth.Decision
import InferenceGateway.Auth.Key
import InferenceGateway.Auth.Record
import InferenceGateway.Calendar
import InferenceGateway.Chat.Message
import InferenceGateway.Chat.Model
import InferenceGateway.Chat.Request
import InferenceGateway.Chat.Response
import InferenceGateway.Client.Basic
import InferenceGateway.Client.Gemini
import InferenceGateway.Client.OpenAi
import InferenceGateway.Client.Remote
import InferenceGateway.CompletionId
import InferenceGateway.Config.Environment
import InferenceGateway.Config.File
import InferenceGateway.Config.Load
import InferenceGateway.Config.Settings
import InferenceGateway.Credential
import InferenceGateway.Decimal.Double
import InferenceGateway.Decimal.Shortest
import InferenceGateway.Dispatch.Acceptance
import InferenceGateway.Dispatch.Call
import InferenceGateway.Dispatch.Summary
import InferenceGateway.Gateway.Error
import InferenceGateway.Gemini.Models
import InferenceGateway.Gemini.Request
import InferenceGateway.Gemini.Response
import InferenceGateway.Hash.Sha256
import InferenceGateway.Http.Address
import InferenceGateway.Http.Exchange
import InferenceGateway.Http.Fault
import InferenceGateway.Http.Host
import InferenceGateway.Inspection
import InferenceGateway.Json.Basic
import InferenceGateway.Json.Decode
import InferenceGateway.Json.Error
import InferenceGateway.Json.Node
import InferenceGateway.Json.Numeral
import InferenceGateway.Json.Printer
import InferenceGateway.Json.Reader
import InferenceGateway.Proofs.Dispatch.Cancellation
import InferenceGateway.Proofs.Dispatch.Course
import InferenceGateway.Proofs.Dispatch.Delivery
import InferenceGateway.Proofs.Registry.Merging
import InferenceGateway.Proofs.Registry.Rounds
import InferenceGateway.Proofs.Rehearsal.Clock
import InferenceGateway.Proofs.Rehearsal.Runs
import InferenceGateway.Proofs.Rehearsal.Shutdown
import InferenceGateway.Provider.Basic
import InferenceGateway.Provider.Error
import InferenceGateway.Provider.Table
import InferenceGateway.Registry.Basic
import InferenceGateway.Registry.Catalog
import InferenceGateway.Registry.Entry
import InferenceGateway.Registry.Priority
import InferenceGateway.Registry.Snapshot
import InferenceGateway.Registry.Task
import InferenceGateway.Registry.Timing
import InferenceGateway.Registry.Turns
import InferenceGateway.Rehearsal.StandIn
import InferenceGateway.Rehearsal.World
import InferenceGateway.Server.Bearer
import InferenceGateway.Server.Description
import InferenceGateway.Server.Message
import InferenceGateway.Server.Route
import InferenceGateway.Server.Service
import InferenceGateway.Server.Site
import InferenceGateway.Stream.Idle
import InferenceGateway.Stream.Relay
import InferenceGateway.Stream.Source
import InferenceGateway.Text.Blank
import InferenceGateway.Text.Case
import InferenceGateway.Text.Fields
import InferenceGateway.Text.Hex
import InferenceGateway.Text.Printable
import InferenceGateway.Text.Quoted
import InferenceGateway.Text.Utf8
import InferenceGateway.Yaml.Cursor
import InferenceGateway.Yaml.Node
import InferenceGateway.Yaml.Read
import InferenceGateway.Yaml.Scalar
import InferenceGateway.Yaml.Token
import InferenceGateway.Proofs.Auth.Admission
import InferenceGateway.Proofs.Registry.Overlap
import InferenceGateway.Proofs.Registry.Waiting
import InferenceGateway.Proofs.Stream.Polling
import InferenceGateway.Proofs.Stream.Relaying
import InferenceGateway.Proofs.Dispatch.Credential
import InferenceGateway.Proofs.Dispatch.Keys
import InferenceGateway.Proofs.Stream.Silence
import InferenceGateway.Proofs.Rehearsal.Snapshots
import InferenceGateway.Proofs.Rehearsal.Fanout
import InferenceGateway.Proofs.Server.States
import InferenceGateway.Proofs.Dispatch.Refusal
import InferenceGateway.Proofs.Dispatch.Published
import InferenceGateway.Proofs.Server.Entrance
import InferenceGateway.Proofs.Chat.Messages
import InferenceGateway.Proofs.Chat.Requests
import InferenceGateway.Proofs.Chat.Responses
import InferenceGateway.Proofs.Chat.RoundTrip
import InferenceGateway.Proofs.Client.Forwarding
import InferenceGateway.Proofs.Client.Listing
import InferenceGateway.Proofs.Client.Upshots
import InferenceGateway.Proofs.Decimal.Size
import InferenceGateway.Proofs.Gemini.Requests
import InferenceGateway.Proofs.Json.Members
import InferenceGateway.Proofs.Json.Numbers
import InferenceGateway.Proofs.Json.Printing
import InferenceGateway.Proofs.Json.Quoting
import InferenceGateway.Proofs.Json.Reading
import InferenceGateway.Proofs.Json.Records
import InferenceGateway.Proofs.Json.Values
import InferenceGateway.Proofs.Server.Answers
import InferenceGateway.Proofs.Server.Ids
import InferenceGateway.Proofs.Text.Utf8
import InferenceGateway.Proofs.Auth.Book
import InferenceGateway.Proofs.Auth.Configured
import InferenceGateway.Proofs.CompletionId
import InferenceGateway.Proofs.Registry.ClientOrder
import InferenceGateway.Proofs.Server.Startup
import InferenceGateway.Proofs.Results
import InferenceGateway.Proofs.Registry.Mentions
import InferenceGateway.Proofs.Provider.Snippets
import InferenceGateway.Proofs.Client.Refusals
import InferenceGateway.Proofs.Gemini.Responses
import InferenceGateway.Proofs.Registry.Tasks
import InferenceGateway.Proofs.Dispatch.Summaries
import InferenceGateway.Proofs.Auth.Duplicates
import InferenceGateway.Proofs.Config.Blanks
