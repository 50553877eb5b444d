import CloudEvents.Body
import CloudEvents.Event
import CloudEvents.Event.Draft
import CloudEvents.Fault
import CloudEvents.Text.Casing
import CloudEvents.Text.Search

/-! Events read from headers and a body; a content type may ask for structured mode instead. -/
namespace CloudEvents.Binary

open Text

/-- Whether a media type is one of a document with one event or several, in any letter case and with
anything around. -/
def namesDocument (mediaType : String) : Bool :=
  let lowered := (lowercase mediaType).toList
  occursIn Attribute.structuredMediaType.toList lowered ||
    occursIn Attribute.batchMediaType.toList lowered

/-- Whether a content type asks for structured mode. One that is absent or empty asks for nothing,
and no letter case can be taken from one that is no text. -/
def isStructured (contentType : Scalar) : Except Fault Bool :=
  if contentType.truthy then (contentType.asText "lower").map namesDocument else .ok false

/-- Fails unless a content type leaves the event to the headers. -/
def checkMode (contentType : Scalar) : Except Fault Unit := do
  if ← isStructured contentType then throw (.unsupportedMode contentType.render)

theorem namesDocument_empty : namesDocument "" = false := by decide +kernel

theorem isStructured_text (s : String) : isStructured (.text s) = .ok (namesDocument s) := by
  by_cases h : s = ""
  · subst h
    rw [namesDocument_empty]
    rfl
  · simp [isStructured, Scalar.truthy, h, Except.map]

theorem checkMode_of_ok {v : Scalar} {b : Bool} (h : isStructured v = .ok b) :
    checkMode v = if b then .error (.unsupportedMode v.render) else .ok () := by
  rw [checkMode, h]
  cases b <;> rfl

theorem checkMode_of_error {v : Scalar} {f : Fault} (h : isStructured v = .error f) :
    checkMode v = .error f := by
  rw [checkMode, h]
  rfl

/-- What reading gave, what is left of the body, and the headers that were passed over although they
look like attributes. -/
structure Decoded where
  result : Except Fault Event
  body : BodyStream
  ignored : List String

/-- What a header with a lowercase name means. -/
inductive Role
  | standard
  | extension (name : String)
  /-- Behind the lead stands nothing, or a name that is carried otherwise. -/
  | ignored
  | unrelated
  deriving DecidableEq

def Role.of (header : String) : Role :=
  match after? Attribute.headerLead header with
  | none => .unrelated
  | some name =>
    if name ∈ Attribute.headerMapped then .standard
    else if name ∈ Attribute.reserved ∨ name = "" then .ignored
    else .extension name

/-- The value in a header, or the null. -/
def header (headers : OrderedMap Scalar) (name : String) : Scalar := (headers.get? name).getD .null

/-- The value of an attribute that travels in a header behind the lead. -/
def carried (headers : OrderedMap Scalar) (name : String) : Scalar :=
  header headers (Attribute.headerLead ++ name)

/-- The time in a header that is there. -/
def readTime (value : Scalar) : Except Fault Timestamp := do Rfc3339.read (← value.asText "strip")

@[simp] theorem readTime_text (s : String) : readTime (.text s) = Rfc3339.read s := by
  simp [readTime, bind, Except.bind]

/-- The extensions among the headers, in their order. -/
def extensions (headers : OrderedMap Scalar) : OrderedMap Scalar :=
  .ofList <| headers.toList.filterMap fun e =>
    match Role.of e.1 with
    | .extension name => some (name, e.2)
    | _ => none

def ignoredNames (names : List String) : List String :=
  names.filter fun name => Role.of name = .ignored

/-- The event that headers with lowercase names and the bytes of the body ask for. -/
def draft (headers : OrderedMap Scalar) (time : Option Timestamp) (bytes : List UInt8) :
    Draft where
  id := (carried headers Attribute.id).text?
  source := (carried headers Attribute.source).text?
  type := (carried headers Attribute.type).text?
  specVersion := (carried headers Attribute.specVersion).text?
  dataContentType := header headers Attribute.contentType
  dataSchema := carried headers Attribute.dataSchema
  subject := carried headers Attribute.subject
  time := time.map .stamp
  data := if bytes = [] then none else some (.bytes bytes)
  extensions := extensions headers

/-- Reads the body and builds the event, once the time is known. -/
def decodeBody (headers : OrderedMap Scalar) (time : Option Timestamp) (body : BodyStream) :
    Decoded :=
  let ignored := ignoredNames headers.keys
  match (Body.read (header headers Attribute.contentLength)).run body with
  | .error f rest => ⟨.error f, rest, ignored⟩
  | .ok bytes rest => ⟨(draft headers time bytes).build, rest, ignored⟩

/-- Reads an event. The content type is looked at first, then the time, then the body, and only then
whether the event is complete. -/
def decode (request : OrderedMap Scalar) (body : BodyStream) : Decoded :=
  let headers := request.mapKeys lowercase
  let timeHeader := Attribute.headerLead ++ Attribute.time
  match checkMode (header headers Attribute.contentType) with
  | .error f => ⟨.error f, body, []⟩
  | .ok () =>
    match Draft.optional readTime (headers.get? timeHeader) with
    | .error f => ⟨.error f, body, ignoredNames (headers.keys.takeWhile (· != timeHeader))⟩
    | .ok time => decodeBody headers time body

end CloudEvents.Binary
