import CloudEvents.Proofs.Binary.Rendered
import CloudEvents.Proofs.Gateway.Framing
import CloudEvents.Proofs.Text.Decimal

/-! What a gateway sends for a request, and the header that tells the length of the body. -/
namespace CloudEvents

open Binary Text

namespace Gateway

/-- What a handler makes of a response. -/
inductive Reply
  | none
  | event (e : Event)
  | page (status : Int) (message : String)

namespace Reply

def act : Reply → EStateM Fault BufferedResponse Unit
  | none => pure ()
  | event e => encode e
  | page status message => HttpResponse.sendError status message

/-- A page may have any status but that of having no content. -/
def Proper : Reply → Prop
  | page status _ => status ≠ Status.noContent
  | _ => True

end Reply

/-- What an action leaves, whether or not it fails. -/
def left {σ α : Type} (act : EStateM Fault σ α) (s : σ) : σ :=
  match act.run s with
  | .ok _ t | .error _ t => t

namespace Answer

/-- The values of the headers that tell the length of the body. -/
def lengths (a : Answer) : List Scalar :=
  (a.headers.filter fun h => lowercase h.1 = Attribute.contentLength).map Prod.snd

/-- An error page, under its two headers. -/
structure IsPage (a : Answer) (status : Int) (message : String) : Prop where
  statusLine : a.statusLine = Status.line status
  headers : a.headers = [("Content-Type", .text "text/plain; charset=utf-8"),
    ("Content-Length", .text (signed (BufferedResponse.octets message).length))]
  body : a.body = BufferedResponse.octets message

variable {a : Answer} {status : Int} {message : String} {e : Event}

theorem IsPage.lengths (h : a.IsPage status message) :
    a.lengths = [.text (signed a.body.length)] := by
  have htype : lowercase "Content-Type" ≠ Attribute.contentLength := by decide +kernel
  have hlength : lowercase "Content-Length" = Attribute.contentLength := by decide +kernel
  rw [Answer.lengths, h.headers, h.body, List.filter_cons_of_neg (by simpa using htype),
    List.filter_cons_of_pos (by simpa using hlength)]
  rfl

end Answer

variable {l : Listener} {context : SpanContext} {env : Environ} {e : Event} {r : Rejection}
  {f : Fault} {stage : Stage} {reply : SpanContext → Event → Request → Reply}

end Gateway

end CloudEvents
