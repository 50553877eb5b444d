import CloudEvents.Response.Writer

/-! A response that is collected before it is sent. -/
namespace CloudEvents

structure BodySink where
  bytes : List UInt8 := []
  closed : Bool := false
  deriving DecidableEq, Inhabited

structure BufferedResponse where
  status : Int := Status.ok
  headers : List (String × Scalar) := []
  body : List UInt8 := []
  /-- The body streams opened so far, by their numbers. -/
  sinks : List BodySink := []
  deriving DecidableEq

namespace BufferedResponse

def statusLine (r : BufferedResponse) : String := Status.line r.status

/-- The octets of a text. -/
def octets (s : String) : List UInt8 := s.toUTF8.data.toList

/-- An error page takes the place of all that was collected, the open body streams apart. -/
def errorPage (status : Int) (message : String) (r : BufferedResponse) : BufferedResponse :=
  { r with
    status
    headers := [("Content-Type", .text "text/plain; charset=utf-8"),
      ("Content-Length", .text (Text.signed (octets message).length))]
    body := octets message }

/-- A stream that is still open. -/
def openSink? (r : BufferedResponse) (stream : Nat) : Option BodySink :=
  r.sinks[stream]?.filter fun s => !s.closed

/-- Fails on a stream that is closed. -/
def useSink (stream : Nat) : EStateM Fault BufferedResponse BodySink := do
  match (← get).openSink? stream with
  | some s => return s
  | none => throw .closedStream

def writeBody (stream : Nat) (bytes : List UInt8) : EStateM Fault BufferedResponse Nat := do
  let s ← useSink stream
  modify fun r => { r with sinks := r.sinks.set stream { s with bytes := s.bytes ++ bytes } }
  return bytes.length

/-- The first time a stream is closed, its bytes are added to the body. -/
def closeBody (stream : Nat) : EStateM Fault BufferedResponse Unit :=
  modify fun r =>
    match r.openSink? stream with
    | some s => { r with
        body := r.body ++ s.bytes
        sinks := r.sinks.set stream { s with closed := true } }
    | none => r

instance : HttpResponse BufferedResponse where
  addHeader name value := modify fun r => { r with headers := r.headers ++ [(name, value)] }
  setStatus status := modify fun r => { r with status }
  sendError status message := modify (errorPage status message)
  openBody := modifyGet fun r => (r.sinks.length, { r with sinks := r.sinks ++ [{}] })
  enterBody stream := do let _ ← useSink stream
  writeBody := writeBody
  flushBody stream := do let _ ← useSink stream
  closeBody := closeBody

variable (r : BufferedResponse)

@[simp] theorem run_addHeader (name : String) (value : Scalar) :
    (ResponseWriter.addHeader name value).run r =
      .ok () { r with headers := r.headers ++ [(name, value)] } := rfl

@[simp] theorem run_setStatus (status : Int) :
    (ResponseWriter.setStatus status).run r = .ok () { r with status } := rfl

@[simp] theorem run_sendError (status : Int) (message : String) :
    (HttpResponse.sendError status message).run r = .ok () (r.errorPage status message) := rfl

theorem run_openBody : ResponseWriter.openBody.run r =
    .ok r.sinks.length { r with sinks := r.sinks ++ [{}] } := rfl

theorem run_useSink (stream : Nat) : (useSink stream).run r =
    match r.openSink? stream with
    | some s => .ok s r
    | none => .error .closedStream r := by
  simp only [useSink, EStateM.run_bind, EStateM.run_get]
  cases r.openSink? stream <;> rfl

theorem run_writeBody (stream : Nat) (bytes : List UInt8) :
    (ResponseWriter.writeBody stream bytes).run r =
      match r.openSink? stream with
      | some s => .ok bytes.length
          { r with sinks := r.sinks.set stream { s with bytes := s.bytes ++ bytes } }
      | none => .error .closedStream r := by
  change (writeBody stream bytes).run r = _
  rw [writeBody, EStateM.run_bind, run_useSink]
  cases r.openSink? stream <;> rfl

theorem run_flushBody (stream : Nat) : (ResponseWriter.flushBody stream).run r =
    match r.openSink? stream with
    | some _ => .ok () r
    | none => .error .closedStream r := by
  change (do let _ ← useSink stream).run r = _
  rw [EStateM.run_bind, run_useSink]
  cases r.openSink? stream <;> rfl

theorem run_closeBody (stream : Nat) : (ResponseWriter.closeBody stream).run r =
    .ok () (match r.openSink? stream with
      | some s => { r with
          body := r.body ++ s.bytes
          sinks := r.sinks.set stream { s with closed := true } }
      | none => r) := rfl

end BufferedResponse

end CloudEvents
