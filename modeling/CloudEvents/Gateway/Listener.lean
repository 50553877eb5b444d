import CloudEvents.Event
import CloudEvents.HeaderMap
import CloudEvents.Listener.Dispatch
import CloudEvents.Response.Buffered
import CloudEvents.Text.CodePoints

/-! Requests as variables and a stream, each answered by one buffered response. -/
namespace CloudEvents.Gateway

open Text

structure Environ where
  vars : OrderedMap Scalar
  /-- The stream of the connection. -/
  input : Option BodyStream := none

namespace Environ

def methodVariable : String := "REQUEST_METHOD"

def defaultMethod : String := "GET"

/-- Says whether the stream of the connection ends where the body ends. -/
def terminatedVariable : String := "wsgi.input_terminated"

/-- What stands before the name of a header that has no variable of its own. -/
def headerLead : String := "HTTP_"

/-- The headers that have variables of their own. -/
def ownVariables : List String := ["CONTENT_TYPE", "CONTENT_LENGTH"]

/-- A header's name, from what a variable has of it. -/
def headerName (s : String) : String :=
  lowercase (String.ofList (s.toList.map fun c => if c = '_' then '-' else c))

/-- The header that a variable stands for, if it stands for one. A blank variable of its own stands
for a header that is not there. -/
def header? (name : String) (value : Scalar) : Option (String × Scalar) :=
  match after? headerLead name with
  | some rest => some (headerName rest, value)
  | none =>
    if name ∈ ownVariables ∧ !allBlank value.render then some (headerName name, value) else none

def headers (env : Environ) : HeaderMap :=
  .ofList (env.vars.toList.filterMap fun e => header? e.1 e.2)

def method (env : Environ) : Scalar := (env.vars.get? methodVariable).getD (.text defaultMethod)

def inputTerminated (env : Environ) : Bool :=
  ((env.vars.get? terminatedVariable).getD .null).truthy

/-- Whether the stream of the connection is the body: it is there, and either its length is declared
or it ends by itself. -/
def sharesInput (env : Environ) : Bool :=
  env.input.isSome && ((env.headers.get? Attribute.contentLength).isSome || env.inputTerminated)

/-- The request, with a body of its own where the connection's stream would not end. -/
def request (env : Environ) : Request where
  method := env.method
  headers := env.headers.entries
  body := if env.sharesInput then env.input.getD (.ofBytes []) else .ofBytes []

end Environ

abbrev Listener := CloudEvents.Listener BufferedResponse

/-- The handler of a listener that was given none. -/
def unhandled (listener : String) : Handler BufferedResponse := fun _ _ =>
  throw (.unhandled listener)

/-- Serves one request into a fresh response. -/
def handle (l : Listener) (context : SpanContext) (env : Environ) : Outcome BufferedResponse :=
  l.dispatch context ⟨env.request, {}⟩

/-- What is sent: the status line and the headers, and then the body. -/
structure Answer where
  statusLine : String
  headers : List (String × Scalar)
  body : List UInt8
  deriving DecidableEq

/-- The answer of a request that was not left unanswered. -/
def answer (o : Outcome BufferedResponse) : Except Fault Answer :=
  match o.result with
  | .error f => .error f
  | .ok _ =>
    let r := o.exchange.response
    .ok ⟨r.statusLine, r.headers, r.body⟩

/-- Serves one request by way of `start`, which takes the status line and the headers. What is left
to send is given back in pieces. -/
def serve {σ : Type} (start : String → List (String × Scalar) → EStateM Fault σ Unit) (l : Listener)
    (context : SpanContext) (env : Environ) : EStateM Fault σ (List (List UInt8)) :=
  match answer (handle l context env) with
  | .error f => throw f
  | .ok a => do
    start a.statusLine a.headers
    return [a.body]

/-- The stream of the connection after a request. -/
def inputAfter (env : Environ) (o : Outcome BufferedResponse) : Option BodyStream :=
  if env.sharesInput then some o.exchange.request.body else env.input

end CloudEvents.Gateway
