import CloudEvents.OrderedMap
import CloudEvents.Scalar
import CloudEvents.Text.Casing
import CloudEvents.Time.Rfc3339

/-! Events: context attributes under their names, and an opaque payload. -/
namespace CloudEvents.Attribute

def id : String := "id"
def source : String := "source"
def specVersion : String := "specversion"
def type : String := "type"
def dataContentType : String := "datacontenttype"
def dataSchema : String := "dataschema"
def subject : String := "subject"
def time : String := "time"

/-- Names the payload, which is no attribute and travels as the body. -/
def data : String := "data"

/-- The extension attributes that carry a trace context. -/
def traceParent : String := "traceparent"
def traceState : String := "tracestate"

/-- Every event has these; the first one missing is the one reported. -/
def required : List String := [id, source, specVersion, type]

/-- Each of these travels in a header named by `headerLead` and the attribute's name. -/
def headerMapped : List String := [id, source, specVersion, type, time, subject, dataSchema]

/-- No extension has one of these names. -/
def reserved : List String := headerMapped ++ [dataContentType, data]

/-- The only version of the event format. -/
def version : String := "1.0"

def supportedVersions : List String := [version]

/-- What stands before an attribute's name in the name of its header. -/
def headerLead : String := "ce-"

/-- The header that carries `dataContentType`. -/
def contentType : String := "content-type"

def contentLength : String := "content-length"

/-- Media type of an event written as one JSON document. -/
def structuredMediaType : String := "application/cloudevents+json"

/-- Media type of several events in one JSON document. -/
def batchMediaType : String := "application/cloudevents-batch+json"

end CloudEvents.Attribute

namespace CloudEvents

/-- An attribute that is the null is absent. The extensions are under their names, in the order in
which they were given. -/
structure Event where
  id : String
  source : String
  type : String
  specVersion : String
  dataContentType : Scalar
  dataSchema : Scalar
  subject : Scalar
  time : Option Timestamp
  data : Option (List UInt8)
  extensions : OrderedMap String
  deriving DecidableEq

namespace Event

/-- The required attributes are there, the version is supported, and every extension has a lowercase
name that no attribute of the format has. -/
structure WellFormed (e : Event) : Prop where
  id_ne : e.id ≠ ""
  source_ne : e.source ≠ ""
  type_ne : e.type ≠ ""
  version : e.specVersion ∈ Attribute.supportedVersions
  lowercase : ∀ name ∈ e.extensions.keys, Text.lowercase name = name
  notReserved : ∀ name ∈ e.extensions.keys, name ∉ Attribute.reserved

/-- The value of an attribute under its name, if the attribute is present. -/
def entry (name : String) (value : Scalar) : List (String × Scalar) :=
  if value = .null then [] else [(name, value)]

/-- The time as the value of an attribute. -/
def timeValue (e : Event) : Scalar := (e.time.map fun t => .text (Rfc3339.write t)).getD .null

/-- The attributes that the format itself names. -/
def standardAttributes (e : Event) : List (String × Scalar) :=
  [(Attribute.specVersion, .text e.specVersion), (Attribute.id, .text e.id),
    (Attribute.source, .text e.source), (Attribute.type, .text e.type)]
  ++ entry Attribute.dataContentType e.dataContentType ++ entry Attribute.dataSchema e.dataSchema
  ++ entry Attribute.subject e.subject ++ entry Attribute.time e.timeValue

/-- Every attribute that is present. The payload is none of them. -/
def attributes (e : Event) : OrderedMap Scalar :=
  OrderedMap.ofList (e.standardAttributes ++ (e.extensions.map .text).toList)

/-- What an event is apart from its extensions, its time being the moment that it names and its
attributes as they are compared. -/
structure Core where
  id : String
  source : String
  type : String
  specVersion : String
  dataContentType : Scalar
  dataSchema : Scalar
  subject : Scalar
  moment : Option Moment
  data : Option (List UInt8)
  deriving DecidableEq

def core (e : Event) : Core where
  id := e.id
  source := e.source
  type := e.type
  specVersion := e.specVersion
  dataContentType := e.dataContentType.canonical
  dataSchema := e.dataSchema.canonical
  subject := e.subject.canonical
  moment := e.time.map (·.moment)
  data := e.data

/-- Whether two events differ at most in the clock that shows their time and in the order of their
extensions. -/
def same (a b : Event) : Bool := a.core = b.core && a.extensions.agrees b.extensions

end Event

end CloudEvents
