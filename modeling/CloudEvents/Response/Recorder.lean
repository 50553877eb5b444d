import CloudEvents.Response.Writer

/-! A response that keeps a record of the calls made on it, and fails where it is told to. -/
namespace CloudEvents

inductive Call
  | addHeader (name : String) (value : Scalar)
  | setStatus (status : Int)
  | sendError (status : Int) (message : String)
  | openBody
  | write (bytes : List UInt8)
  | flush
  | close
  deriving DecidableEq

structure Recorder where
  /-- What fault, if any, the last of these calls raises. -/
  plan : List Call → Option Fault
  /-- Whether body streams are closed from the start. -/
  bornClosed : Bool := false
  calls : List Call := []
  /-- For each body stream, by its number, whether it is closed. -/
  closed : List Bool := []

namespace Recorder

/-- Puts a call on the record, and fails if that is planned. -/
def record (c : Call) : EStateM Fault Recorder Unit := fun r =>
  let calls := r.calls ++ [c]
  match r.plan calls with
  | none => .ok () { r with calls }
  | some f => .error f { r with calls }

theorem run_record (c : Call) (r : Recorder) :
    (record c).run r =
      match r.plan (r.calls ++ [c]) with
      | none => .ok () { r with calls := r.calls ++ [c] }
      | some f => .error f { r with calls := r.calls ++ [c] } := rfl

def isClosed (r : Recorder) (stream : Nat) : Bool := r.closed.getD stream true

/-- Opens a stream after the call is recorded. -/
def openBody : EStateM Fault Recorder Nat := do
  record .openBody
  modifyGet fun r => (r.closed.length, { r with closed := r.closed ++ [r.bornClosed] })

def enterBody (stream : Nat) : EStateM Fault Recorder Unit := do
  if (← get).isClosed stream then throw .closedStream

def closeBody (stream : Nat) : EStateM Fault Recorder Unit := do
  if !(← get).isClosed stream then
    modify fun r => { r with closed := r.closed.set stream true }
    record .close

instance : HttpResponse Recorder where
  addHeader name value := record (.addHeader name value)
  setStatus status := record (.setStatus status)
  sendError status message := record (.sendError status message)
  openBody := openBody
  enterBody := enterBody
  writeBody _ bytes := do
    record (.write bytes)
    return bytes.length
  flushBody _ := record .flush
  closeBody := closeBody

end Recorder

end CloudEvents
