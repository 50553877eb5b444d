import CloudEvents.Event
import CloudEvents.Response.Writer

/-! Events written to a response: a header for each attribute, and the payload as the body. -/
namespace CloudEvents.Binary

open ResponseWriter

variable {ρ : Type} [ResponseWriter ρ]

/-- The header of an attribute: the data content type has one of its own, and every other attribute
has its name behind `lead`. -/
def headerName (lead name : String) : String :=
  if name = Attribute.dataContentType then Attribute.contentType else lead ++ name

/-- One header for each attribute, in their order. -/
def toHeaders (e : Event) (lead : String) : OrderedMap Scalar :=
  e.attributes.mapKeys (headerName lead)

/-- A fault of the response as a fault of writing the event. One that is that already passes as it
is, and so does one that has to do neither with bytes nor with values. -/
def writeFault (id : String) (f : Fault) : Fault :=
  if f.kind.belongsTo .encode then f
  else if f.kind.belongsTo .anyIo || f.kind.belongsTo .anyValue then .writeFailed id f
  else f

/-- Writes the payload through a body stream of its own. -/
def writeData (bytes : List UInt8) : EStateM Fault ρ Unit := do
  addHeader Attribute.contentLength (.text (Text.signed bytes.length))
  setStatus Status.ok
  withBody fun stream => do
    let _ ← writeBody stream bytes
    flushBody stream

/-- Writes an event, with the response's own faults. -/
def write (e : Event) : EStateM Fault ρ Unit := do
  forM (toHeaders e Attribute.headerLead).toList fun header => addHeader header.1 header.2
  match e.data with
  | none => setStatus Status.noContent
  | some bytes => writeData bytes

/-- Writes an event to a response. -/
def encode (e : Event) : EStateM Fault ρ Unit := (write e).adaptExcept (writeFault e.id)

end CloudEvents.Binary
