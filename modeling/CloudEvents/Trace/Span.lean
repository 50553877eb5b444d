import CloudEvents.Event
import CloudEvents.Fault
import CloudEvents.Scalar
import CloudEvents.Trace.Context

/-! Spans: the record that a trace keeps of one request. -/
namespace CloudEvents

/-- The release of this library. -/
def release : String := "1.0.0"

inductive SpanStatus
  | unset
  | error (description : String)
  deriving DecidableEq

structure Span where
  context : SpanContext
  tracer : Scalar
  attributes : OrderedMap Scalar := .empty
  links : List SpanContext := []
  status : SpanStatus := .unset
  /-- The faults that left the request unanswered. -/
  faults : List Fault := []
  deriving DecidableEq

namespace Span

def name : String := "cloudevent.dispatch"

/-- The role of the one who answers. -/
def role : String := "SERVER"

/-- The version of what makes the record. -/
def scopeVersion : String := release

namespace Key

def eventId : String := "cloudevents.event_id"
def eventSource : String := "cloudevents.event_source"
def eventSpecVersion : String := "cloudevents.event_spec_version"
def eventType : String := "cloudevents.event_type"
def eventSubject : String := "cloudevents.event_subject"
def httpMethod : String := "http.request.method"
def httpStatusCode : String := "http.response.status_code"

end Key

/-- Notes a value. The null leaves no note. -/
def set (s : Span) (key : String) (value : Scalar) : Span :=
  if value = .null then s else { s with attributes := s.attributes.insert key value }

/-- A record that knows the method of the request and nothing else. A tracer without a name has the
empty name. -/
def start (tracer : Scalar) (context : SpanContext) (method : Scalar) : Span :=
  let tracer := if tracer.truthy then tracer else .text ""
  set { context, tracer } Key.httpMethod method

/-- Notes the event that the request carried, and links to the trace that it came from. -/
def annotate (s : Span) (e : Event) (remote : Option SpanContext) : Span :=
  let s := (((s.set Key.eventId (.text e.id)).set Key.eventSource (.text e.source)).set
    Key.eventSpecVersion (.text e.specVersion)).set Key.eventType (.text e.type)
  let s := s.set Key.eventSubject e.subject
  { s with links := s.links ++ remote.toList }

/-- Notes that the request was turned down. -/
def reject (s : Span) (status : Int) (message : String) : Span :=
  { s.set Key.httpStatusCode (.int status) with status := .error message }

/-- Notes a fault that left the request unanswered. -/
def fail (s : Span) (f : Fault) : Span :=
  { s with status := .error f.summary, faults := s.faults ++ [f] }

end Span

end CloudEvents
