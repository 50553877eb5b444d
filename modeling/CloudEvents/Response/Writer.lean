import CloudEvents.Fault
import CloudEvents.Text.Digits

/-! Status codes, and what a response has to offer; every call may fail. -/
namespace CloudEvents.Status

def ok : Int := 200
def noContent : Int := 204
def badRequest : Int := 400
def unsupportedMediaType : Int := 415
def notImplemented : Int := 501

/-- The phrase of every status code that has one. -/
def phrases : List (Int × String) := [
  (100, "Continue"),
  (101, "Switching Protocols"),
  (102, "Processing"),
  (103, "Early Hints"),
  (200, "OK"),
  (201, "Created"),
  (202, "Accepted"),
  (203, "Non-Authoritative Information"),
  (204, "No Content"),
  (205, "Reset Content"),
  (206, "Partial Content"),
  (207, "Multi-Status"),
  (208, "Already Reported"),
  (226, "IM Used"),
  (300, "Multiple Choices"),
  (301, "Moved Permanently"),
  (302, "Found"),
  (303, "See Other"),
  (304, "Not Modified"),
  (305, "Use Proxy"),
  (307, "Temporary Redirect"),
  (308, "Permanent Redirect"),
  (400, "Bad Request"),
  (401, "Unauthorized"),
  (402, "Payment Required"),
  (403, "Forbidden"),
  (404, "Not Found"),
  (405, "Method Not Allowed"),
  (406, "Not Acceptable"),
  (407, "Proxy Authentication Required"),
  (408, "Request Timeout"),
  (409, "Conflict"),
  (410, "Gone"),
  (411, "Length Required"),
  (412, "Precondition Failed"),
  (413, "Request Entity Too Large"),
  (414, "Request-URI Too Long"),
  (415, "Unsupported Media Type"),
  (416, "Requested Range Not Satisfiable"),
  (417, "Expectation Failed"),
  (418, "I'm a Teapot"),
  (421, "Misdirected Request"),
  (422, "Unprocessable Entity"),
  (423, "Locked"),
  (424, "Failed Dependency"),
  (425, "Too Early"),
  (426, "Upgrade Required"),
  (428, "Precondition Required"),
  (429, "Too Many Requests"),
  (431, "Request Header Fields Too Large"),
  (451, "Unavailable For Legal Reasons"),
  (500, "Internal Server Error"),
  (501, "Not Implemented"),
  (502, "Bad Gateway"),
  (503, "Service Unavailable"),
  (504, "Gateway Timeout"),
  (505, "HTTP Version Not Supported"),
  (506, "Variant Also Negotiates"),
  (507, "Insufficient Storage"),
  (508, "Loop Detected"),
  (510, "Not Extended"),
  (511, "Network Authentication Required")]

def phrase (status : Int) : String := (phrases.lookup status).getD "Unknown"

/-- The code and its phrase. -/
def line (status : Int) : String := Text.signed status ++ " " ++ phrase status

end CloudEvents.Status

namespace CloudEvents

/-- What an event is written to. -/
class ResponseWriter (ρ : Type) where
  addHeader (name : String) (value : Scalar) : EStateM Fault ρ Unit
  setStatus (status : Int) : EStateM Fault ρ Unit
  openBody : EStateM Fault ρ Nat
  enterBody (stream : Nat) : EStateM Fault ρ Unit
  /-- Gives back how many bytes were taken. -/
  writeBody (stream : Nat) (bytes : List UInt8) : EStateM Fault ρ Nat
  flushBody (stream : Nat) : EStateM Fault ρ Unit
  closeBody (stream : Nat) : EStateM Fault ρ Unit

/-- A response that can also be answered with an error page. -/
class HttpResponse (ρ : Type) extends ResponseWriter ρ where
  sendError (status : Int) (message : String) : EStateM Fault ρ Unit

variable {σ ρ α : Type}

/-- Opens a body stream for `use`, and closes it however `use` ends. A fault of closing it takes the
place of one of `use`. -/
def withBody [ResponseWriter ρ] (use : Nat → EStateM Fault ρ α) : EStateM Fault ρ α := do
  let stream ← ResponseWriter.openBody
  ResponseWriter.enterBody stream
  try use stream finally ResponseWriter.closeBody stream

theorem run_tryFinally (act : EStateM Fault σ α) (last : EStateM Fault σ Unit) (s : σ) :
    (tryFinally act last).run s =
      match act.run s with
      | .ok a t =>
        match last.run t with
        | .ok _ u => .ok a u
        | .error f u => .error f u
      | .error f t =>
        match last.run t with
        | .ok _ u => .error f u
        | .error g u => .error g u := by
  simp only [tryFinally, tryFinally', EStateM.run, Functor.map, EStateM.map]
  cases act s with
  | ok a t => cases h : last t <;> simp [h]
  | error f t => cases h : last t <;> simp [h]

end CloudEvents
