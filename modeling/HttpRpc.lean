import HttpRpc.Client.Bound
import HttpRpc.Document.Error
import HttpRpc.Document.Interface
import HttpRpc.Service.Streamed
import HttpRpc.Text.Hex
import HttpRpc.Proofs.Url.Escape
import HttpRpc.Proofs.Url.Segment
import HttpRpc.Proofs.Binding.Expansion
import HttpRpc.Proofs.Binding.Containment
import HttpRpc.Proofs.Http.Header
import HttpRpc.Proofs.Run
import HttpRpc.Proofs.Service.Dispatch
import HttpRpc.Proofs.Service.Admission
import HttpRpc.Proofs.Service.Decision
import HttpRpc.Proofs.Codec.Default
import HttpRpc.Proofs.Service.Payload
import HttpRpc.Proofs.Client.Call
import HttpRpc.Proofs.Binding.Table
import HttpRpc.Proofs.Binding.Word
import HttpRpc.Proofs.Client.Delivery
import HttpRpc.Proofs.Http.Target
import HttpRpc.Proofs.Url.Parsed
import HttpRpc.Proofs.Client.Argument
import HttpRpc.Proofs.Client.Request
import HttpRpc.Proofs.Service.Json
import HttpRpc.Proofs.Url.Unescape
import HttpRpc.Proofs.Url.Query
import HttpRpc.Proofs.Url.Appended
import HttpRpc.Proofs.Binding.Rows
import HttpRpc.Proofs.Binding.Grammar
import HttpRpc.Proofs.Binding.Placeholder
import HttpRpc.Proofs.Binding.Suffix
import HttpRpc.Proofs.Binding.Rendering
import HttpRpc.Proofs.Binding.Faithful
import HttpRpc.Proofs.Binding.Roles
import HttpRpc.Proofs.Binding.WellFormed
import HttpRpc.Proofs.Binding.Values
import HttpRpc.Proofs.Binding.Resolution
import HttpRpc.Proofs.Binding.Difference
import HttpRpc.Proofs.Binding.Cached
import HttpRpc.Proofs.Backoff.Schedule
import HttpRpc.Proofs.Client.CallTree
import HttpRpc.Proofs.Client.Numbering
import HttpRpc.Proofs.Client.Retry
import HttpRpc.Proofs.Trace.Reachable
import HttpRpc.Proofs.Trace.Grammar
import HttpRpc.Proofs.Service.Content
import HttpRpc.Proofs.Service.Secrecy
import HttpRpc.Proofs.Media.Accept
import HttpRpc.Proofs.Codec.Refusal
import HttpRpc.Proofs.Codec.BuiltIn
import HttpRpc.Proofs.Client.Answer
import HttpRpc.Proofs.Client.Readable
import HttpRpc.Proofs.Client.TextBody
import HttpRpc.Proofs.Backoff.Growth
import HttpRpc.Proofs.Json.Printer
import HttpRpc.Proofs.Media.Joined
import HttpRpc.Proofs.Service.Accepted
import HttpRpc.Proofs.Service.Streaming
import HttpRpc.Proofs.Transport.Credentials
import HttpRpc.Proofs.Media.Rendering
import HttpRpc.Proofs.Media.Preference
import HttpRpc.Proofs.Codec.Listing
import HttpRpc.Proofs.Client.Outgoing
import HttpRpc.Proofs.Client.Verdict
import HttpRpc.Proofs.Media.Parameter
import HttpRpc.Proofs.Service.Building
import HttpRpc.Proofs.Service.Tolerance
import HttpRpc.Proofs.Backoff.Geometric
import HttpRpc.Proofs.Backoff.Widening
import HttpRpc.Proofs.Interface.Positions
import HttpRpc.Proofs.Service.Published
