import CloudEvents.Binary.Decode
import CloudEvents.Binary.Encode
import CloudEvents.Body
import CloudEvents.Event
import CloudEvents.Event.Draft
import CloudEvents.Fault
import CloudEvents.Fault.Kind
import CloudEvents.Gateway.Listener
import CloudEvents.HeaderMap
import CloudEvents.Listener.Dispatch
import CloudEvents.Listener.Settings
import CloudEvents.OrderedMap
import CloudEvents.Proofs.Binary.Collisions
import CloudEvents.Proofs.Binary.Extensions
import CloudEvents.Proofs.Binary.Failures
import CloudEvents.Proofs.Binary.Forwarding
import CloudEvents.Proofs.Binary.Headers
import CloudEvents.Proofs.Binary.Lengths
import CloudEvents.Proofs.Binary.Precedence
import CloudEvents.Proofs.Binary.Refusals
import CloudEvents.Proofs.Binary.Relevance
import CloudEvents.Proofs.Binary.Rendered
import CloudEvents.Proofs.Binary.RoundTrip
import CloudEvents.Proofs.Binary.Stages
import CloudEvents.Proofs.Body.Consumed
import CloudEvents.Proofs.Body.Declared
import CloudEvents.Proofs.Body.Drained
import CloudEvents.Proofs.Body.Faults
import CloudEvents.Proofs.Body.Slices
import CloudEvents.Proofs.Event.Arising
import CloudEvents.Proofs.Event.Attributes
import CloudEvents.Proofs.Event.Building
import CloudEvents.Proofs.Event.Changes
import CloudEvents.Proofs.Event.WellFormed
import CloudEvents.Proofs.Gateway.Answers
import CloudEvents.Proofs.Gateway.Framing
import CloudEvents.Proofs.Gateway.RoundTrip
import CloudEvents.Proofs.Gateway.Transport
import CloudEvents.Proofs.Gateway.Variables
import CloudEvents.Proofs.HeaderMap
import CloudEvents.Proofs.Listener.Answer
import CloudEvents.Proofs.Listener.Record
import CloudEvents.Proofs.Listener.Rules
import CloudEvents.Proofs.Listener.Settings
import CloudEvents.Proofs.Listener.Switches
import CloudEvents.Proofs.Listener.Unanswered
import CloudEvents.Proofs.OrderedMap
import CloudEvents.Proofs.Response.Buffered
import CloudEvents.Proofs.Response.Recorder
import CloudEvents.Proofs.Text.Blank
import CloudEvents.Proofs.Text.Casing
import CloudEvents.Proofs.Text.Decimal
import CloudEvents.Proofs.Text.Lowercase
import CloudEvents.Proofs.Text.Uppercase
import CloudEvents.Proofs.Time.Reading
import CloudEvents.Proofs.Time.RoundTrip
import CloudEvents.Proofs.Time.Written
import CloudEvents.Proofs.Trace.Carrier
import CloudEvents.Proofs.Trace.Parent
import CloudEvents.Proofs.Trace.RoundTrip
import CloudEvents.Proofs.Trace.State
import CloudEvents.Response.Buffered
import CloudEvents.Response.Recorder
import CloudEvents.Response.Writer
import CloudEvents.Scalar
import CloudEvents.Text.Casing
import CloudEvents.Text.CodePoints
import CloudEvents.Text.Digits
import CloudEvents.Text.Quoted
import CloudEvents.Text.Search
import CloudEvents.Time.Rfc3339
import CloudEvents.Time.Timestamp
import CloudEvents.Trace.Context
import CloudEvents.Trace.Span
import CloudEvents.Trace.State
