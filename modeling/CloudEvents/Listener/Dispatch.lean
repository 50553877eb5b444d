import CloudEvents.Binary.Decode
import CloudEvents.Event
import CloudEvents.Fault
import CloudEvents.Listener.Settings
import CloudEvents.Response.Writer
import CloudEvents.Trace.Context
import CloudEvents.Trace.Span

/-! One request, from its method to its answer, with its log and its span. -/
namespace CloudEvents

inductive LogLevel
  | debug
  | warning
  deriving DecidableEq

def LogLevel.name : LogLevel → String
  | debug => "DEBUG"
  | warning => "WARNING"

structure LogRecord where
  level : LogLevel
  logger : String
  message : String
  deriving DecidableEq

namespace LogRecord

def decoderLogger : String := "celistener.decoder"
def dispatcherLogger : String := "celistener.dispatcher"

/-- A header was passed over. -/
def ignored (header : String) : LogRecord :=
  ⟨.debug, decoderLogger,
    "Ignoring header " ++ Text.quoted header ++ ": not a binary-mode attribute"⟩

/-- A request was turned down; `reason` is put before the fault. -/
def rejected (reason : String) (f : Fault) : LogRecord :=
  ⟨.warning, dispatcherLogger, reason ++ ": " ++ f.message⟩

/-- An event is handed to the handler. -/
def dispatching (e : Event) : LogRecord :=
  ⟨.debug, dispatcherLogger, "Dispatching CloudEvent id=" ++ e.id ++ " type=" ++ e.type⟩

end LogRecord

structure Request where
  method : Scalar
  headers : OrderedMap Scalar
  body : BodyStream

/-- A request and the response to it. -/
structure Exchange (ρ : Type) where
  request : Request
  response : ρ

/-- An action on the response of an exchange. -/
def Exchange.respond {ρ α : Type} (act : EStateM Fault ρ α) : EStateM Fault (Exchange ρ) α :=
  fun x =>
    match act.run x.response with
    | .ok a response => .ok a { x with response }
    | .error f response => .error f { x with response }

/-- What is done with an event, where the context is that of the span around it. -/
abbrev Handler (ρ : Type) := SpanContext → Event → EStateM Fault (Exchange ρ) Unit

structure Listener (ρ : Type) where
  settings : Settings
  handler : Handler ρ

/-- How far a request came. -/
inductive Stage
  | awaitingRequest
  | decoding
  | handlerInvoked
  deriving DecidableEq

def Stage.name : Stage → String
  | awaitingRequest => "awaiting_request"
  | decoding => "decoding"
  | handlerInvoked => "handler_invoked"

/-- The outcome of one request and all that it left behind. -/
structure Outcome (ρ : Type) where
  result : Except Fault Stage
  /-- The event that the handler was given. -/
  handled : Option Event := none
  exchange : Exchange ρ
  log : List LogRecord
  span : Span

/-- How a request is turned down. -/
structure Rejection where
  stage : Stage
  status : Int
  /-- What the client is told. -/
  message : String
  /-- What the log says before the fault. -/
  reason : String
  deriving DecidableEq

namespace Rejection

def emptyBodyMessage : String := "Empty body in request"
def structuredMessage : String := "Structured content mode not supported"
def methodMessage : String := "Method not implemented"

def ofMethod (method : Scalar) : Rejection :=
  ⟨.awaitingRequest, Status.notImplemented, methodMessage,
    "Rejecting " ++ method.render ++ " request"⟩

/-- The answer to a fault of reading an event, if there is one. -/
def ofFault? (settings : Settings) (f : Fault) : Option Rejection :=
  if f.kind ∈ [.bodyUnread, .malformedLength, .emptyBody] then
    some ⟨.decoding, Status.badRequest, emptyBodyMessage, "Could not read CloudEvent body"⟩
  else if f.kind = .unsupportedMode then
    some ⟨.decoding, Status.unsupportedMediaType, structuredMessage, "Rejecting CloudEvent request"⟩
  else if f.kind.belongsTo .decode ∧ settings.rejectInvalid then
    some ⟨.decoding, Status.badRequest, f.message, "Rejecting invalid CloudEvent"⟩
  else none

end Rejection

namespace Request

/-- Reads the event of a request. An event without a payload may be asked to have one. -/
def readEvent (r : Request) (settings : Settings) : Binary.Decoded :=
  let d := Binary.decode r.headers r.body
  match d.result with
  | .ok e =>
    if settings.requireBody && e.data.isNone then { d with result := .error .emptyBody } else d
  | .error _ => d

end Request

namespace Listener

variable {ρ : Type}

/-- Sends the error page of a rejection. -/
def turnDown [HttpResponse ρ] (r : Rejection) (f : Fault) (x : Exchange ρ) (log : List LogRecord)
    (span : Span) : Outcome ρ :=
  let log := log ++ [.rejected r.reason f]
  let span := span.reject r.status r.message
  match (HttpResponse.sendError r.status r.message).run x.response with
  | .ok () response => ⟨.ok r.stage, none, { x with response }, log, span⟩
  | .error g response => ⟨.error g, none, { x with response }, log, span.fail g⟩

/-- Hands the event to the handler. -/
def handOver (l : Listener ρ) (e : Event) (x : Exchange ρ) (log : List LogRecord) (span : Span) :
    Outcome ρ :=
  let span := span.annotate e e.traceContext?
  let log := log ++ [.dispatching e]
  match (l.handler span.context e).run x with
  | .ok () x => ⟨.ok .handlerInvoked, some e, x, log, span⟩
  | .error f x => ⟨.error f, some e, x, log, span.fail f⟩

/-- Serves a request inside a span with the given context. -/
def dispatch [HttpResponse ρ] (l : Listener ρ) (context : SpanContext) (x : Exchange ρ) :
    Outcome ρ :=
  let span := Span.start l.settings.tracerName context x.request.method
  match l.settings.checkMethod x.request.method with
  | .error f => turnDown (.ofMethod x.request.method) f x [] span
  | .ok () =>
    let d := x.request.readEvent l.settings
    let x := { x with request := { x.request with body := d.body } }
    let log := d.ignored.map .ignored
    match d.result with
    | .ok e => l.handOver e x log span
    | .error f =>
      match Rejection.ofFault? l.settings f with
      | some r => turnDown r f x log span
      | none => ⟨.error f, none, x, log, span.fail f⟩

end Listener

end CloudEvents
