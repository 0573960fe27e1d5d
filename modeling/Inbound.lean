import Inbound.Adapter.Message
import Inbound.Adapter.Service
import Inbound.Async.Barrier
import Inbound.Async.Gate
import Inbound.Async.Poll
import Inbound.Async.RunQueue
import Inbound.Body.Basic
import Inbound.Body.Error
import Inbound.Body.Payload
import Inbound.Charset
import Inbound.Config.Basic
import Inbound.Config.Document
import Inbound.Deferred.Job
import Inbound.Deferred.Registry
import Inbound.Http.Fields
import Inbound.Http.Method
import Inbound.Http.MultiMap
import Inbound.Http.Query
import Inbound.Http.Target
import Inbound.Http.Token
import Inbound.Http.Version
import Inbound.Json.Lexical
import Inbound.Json.Parser
import Inbound.Json.Shape
import Inbound.Json.Value
import Inbound.MediaType
import Inbound.Memo
import Inbound.Request.Basic
import Inbound.Request.Call
import Inbound.Request.Head
import Inbound.Request.Resolution
import Inbound.Request.Store
import Inbound.Request.Views
import Inbound.Server.Basic
import Inbound.Server.Binding
import Inbound.Server.Deferral
import Inbound.Server.Lifetime
import Inbound.Server.Run
import Inbound.Text.Base64
import Inbound.Text.Blank
import Inbound.Text.CodeRange
import Inbound.Text.CombiningClass
import Inbound.Text.Composed
import Inbound.Text.Digits
import Inbound.Text.GraphemeExtend
import Inbound.Text.Hangul
import Inbound.Text.Mark
import Inbound.Text.Quoted
import Inbound.Text.Unprintable
import Inbound.Text.Utf8
import Inbound.Url.Basic
import Inbound.Url.Direction
import Inbound.Url.Domain
import Inbound.Url.Host
import Inbound.Url.Ipv4
import Inbound.Url.Ipv6
import Inbound.Url.Joining
import Inbound.Url.Parser
import Inbound.Url.Percent
import Inbound.Url.Punycode
import Inbound.Url.Variant
import Inbound.WebSocket.Backend
import Inbound.WebSocket.Basic
import Inbound.WebSocket.Channel
import Inbound.WebSocket.Client
import Inbound.WebSocket.Duplex
import Inbound.WebSocket.Frame
import Inbound.WebSocket.Handshake
import Inbound.WebSocket.Scripted
import Inbound.WebSocket.Session
import Inbound.WebSocket.Sha1
import Inbound.WebSocket.Socket
import Inbound.WebSocket.Stream
import Inbound.WebSocket.Wire
import Inbound.Proofs.Adapter.Answers
import Inbound.Proofs.Adapter.Delivery
import Inbound.Proofs.Adapter.Desk
import Inbound.Proofs.Body.Cancellation
import Inbound.Proofs.Body.Completeness
import Inbound.Proofs.Body.Handover
import Inbound.Proofs.Body.Operation
import Inbound.Proofs.Body.Payload
import Inbound.Proofs.Body.Quiet
import Inbound.Proofs.Body.Sequence
import Inbound.Proofs.Body.Spoiling
import Inbound.Proofs.Body.Traffic
import Inbound.Proofs.Body.Turn
import Inbound.Proofs.Body.Walk
import Inbound.Proofs.Deferred.Attendance
import Inbound.Proofs.Deferred.Books
import Inbound.Proofs.Deferred.Cascade
import Inbound.Proofs.Deferred.Consumption
import Inbound.Proofs.Deferred.Dealings
import Inbound.Proofs.Deferred.Doings
import Inbound.Proofs.Deferred.Holding
import Inbound.Proofs.Deferred.Ledger
import Inbound.Proofs.Deferred.Registry
import Inbound.Proofs.Deferred.Reporting
import Inbound.Proofs.Deferred.Stock
import Inbound.Proofs.Deferred.Table
import Inbound.Proofs.Deferred.Tasks
import Inbound.Proofs.Deferred.Verdict
import Inbound.Proofs.Http.MultiMap
import Inbound.Proofs.Request.Cells
import Inbound.Proofs.Request.Eager
import Inbound.Proofs.Request.Origin
import Inbound.Proofs.Request.Views
import Inbound.Proofs.Server.Bound
import Inbound.Proofs.Server.Eager
import Inbound.Proofs.Server.Entries
import Inbound.Proofs.Server.Fixtures
import Inbound.Proofs.Server.Lazy
import Inbound.Proofs.Server.Scopes
import Inbound.Proofs.Url.Origin
import Inbound.Proofs.WebSocket.Alike
import Inbound.Proofs.WebSocket.Carrying
import Inbound.Proofs.WebSocket.Closing
import Inbound.Proofs.WebSocket.Course
import Inbound.Proofs.WebSocket.Framing
import Inbound.Proofs.WebSocket.Greeting
import Inbound.Proofs.WebSocket.Incoming
import Inbound.Proofs.WebSocket.Outgoing
import Inbound.Proofs.WebSocket.Protocol
import Inbound.Proofs.WebSocket.Sides
import Inbound.Proofs.WebSocket.Spacious
import Inbound.Proofs.Adapter.Handling
import Inbound.Proofs.Body.Decoding
import Inbound.Proofs.Deferred.Cutoff
import Inbound.Proofs.WebSocket.Awaiting
import Inbound.Proofs.WebSocket.Retrying
import Inbound.Proofs.Adapter.Metadata
import Inbound.Proofs.Body.BarePulls
import Inbound.Proofs.Text.Charset
import Inbound.Proofs.Deferred.Elsewhere
