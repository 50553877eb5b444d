import CloudEvents.Event

/-! Drafts: what an event is asked to be, before it is checked and built. -/
namespace CloudEvents

/-- A time as it may be given. -/
inductive TimeValue
  | text (s : String)
  | stamp (t : Timestamp)
  /-- A date and time in no zone at all. -/
  | unzoned (t : DateTime)
  deriving DecidableEq

namespace TimeValue

def resolve : TimeValue → Except Fault Timestamp
  | text s => Rfc3339.read s
  | stamp t => .ok t
  | unzoned t => .error (.malformedTimestamp (Rfc3339.writeClock t))

end TimeValue

/-- A payload as it may be given. -/
inductive Payload
  | bytes (b : List UInt8)
  | numbers (ns : List Int)
  /-- So many zero bytes. -/
  | zeros (count : Int)
  | text (s : String)
  deriving DecidableEq

namespace Payload

def resolve : Payload → Except Fault (List UInt8)
  | bytes b => .ok b
  | numbers ns =>
    if ns.all fun n => 0 ≤ n && n < 256 then .ok (ns.map fun n => UInt8.ofNat n.toNat)
    else .error .byteRange
  | zeros n =>
    if n < -Fault.maxIndex - 1 ∨ Fault.maxIndex < n then .error .indexLimit
    else if n < 0 then .error .negativeCount
    else if Fault.maxSize < n then .error .sizeLimit
    else .ok (List.replicate n.toNat 0)
  | text _ => .error .textPayload

end Payload

/-- The fields of an event to be. A required text that was given as something else counts as not
given. -/
structure Draft where
  id : Option String := none
  source : Option String := none
  type : Option String := none
  specVersion : Option String := some Attribute.version
  dataContentType : Scalar := .null
  dataSchema : Scalar := .null
  subject : Scalar := .null
  time : Option TimeValue := none
  data : Option Payload := none
  extensions : OrderedMap Scalar := .empty

namespace Draft

/-- A text that is there and not empty. -/
def requireText (name : String) : Option String → Except Fault String
  | some v => if v = "" then .error (.missingAttribute name) else .ok v
  | none => .error (.missingAttribute name)

def supportedVersion (v : String) : Except Fault String :=
  if v ∈ Attribute.supportedVersions then .ok v else .error (.unsupportedVersion v)

/-- Resolves what is given, and leaves alone what is not. -/
def optional {α β : Type} (f : α → Except Fault β) : Option α → Except Fault (Option β)
  | some a => (f a).map some
  | none => .ok none

/-- The extensions under lowercase names, with their values as texts. -/
def checkExtensions (m : OrderedMap Scalar) : Except Fault (OrderedMap String) :=
  match m.keys.find? fun name => Attribute.reserved.contains (Text.lowercase name) with
  | some name => .error (.reservedExtension name)
  | none => .ok ((m.map Scalar.render).mapKeys Text.lowercase)

/-- Of several faults the first in this order is reported. -/
def build (d : Draft) : Except Fault Event := do
  let id ← requireText Attribute.id d.id
  let source ← requireText Attribute.source d.source
  let version ← requireText Attribute.specVersion d.specVersion
  let type ← requireText Attribute.type d.type
  let specVersion ← supportedVersion version
  let time ← optional TimeValue.resolve d.time
  let data ← optional Payload.resolve d.data
  let extensions ← checkExtensions d.extensions
  return {
    id, source, type, specVersion, time, data, extensions
    dataContentType := d.dataContentType
    dataSchema := d.dataSchema
    subject := d.subject }

end Draft

/-- New values for some of the fields; `none` leaves a field as it is. -/
structure Changes where
  id : Option (Option String) := none
  source : Option (Option String) := none
  type : Option (Option String) := none
  specVersion : Option (Option String) := none
  dataContentType : Option Scalar := none
  dataSchema : Option Scalar := none
  subject : Option Scalar := none
  time : Option (Option TimeValue) := none
  data : Option (Option Payload) := none
  extensions : Option (OrderedMap Scalar) := none

namespace Changes

def apply (c : Changes) (d : Draft) : Draft where
  id := c.id.getD d.id
  source := c.source.getD d.source
  type := c.type.getD d.type
  specVersion := c.specVersion.getD d.specVersion
  dataContentType := c.dataContentType.getD d.dataContentType
  dataSchema := c.dataSchema.getD d.dataSchema
  subject := c.subject.getD d.subject
  time := c.time.getD d.time
  data := c.data.getD d.data
  extensions := c.extensions.getD d.extensions

/-- First the one, then the other. -/
def followedBy (a b : Changes) : Changes where
  id := b.id.or a.id
  source := b.source.or a.source
  type := b.type.or a.type
  specVersion := b.specVersion.or a.specVersion
  dataContentType := b.dataContentType.or a.dataContentType
  dataSchema := b.dataSchema.or a.dataSchema
  subject := b.subject.or a.subject
  time := b.time.or a.time
  data := b.data.or a.data
  extensions := b.extensions.or a.extensions

theorem apply_followedBy (a b : Changes) (d : Draft) :
    (a.followedBy b).apply d = b.apply (a.apply d) := by
  simp [apply, followedBy, Option.getD_or]

end Changes

/-- An identifier not used before and the present moment, in universal time. -/
structure Stamp where
  id : String
  time : Timestamp
  universal : time.offset = some 0

namespace Event

/-- The draft of an event that is there already. -/
def draft (e : Event) : Draft where
  id := some e.id
  source := some e.source
  type := some e.type
  specVersion := some e.specVersion
  dataContentType := e.dataContentType
  dataSchema := e.dataSchema
  subject := e.subject
  time := e.time.map .stamp
  data := e.data.map .bytes
  extensions := e.extensions.map .text

/-- An event with the given fields; the others are absent, the version apart. -/
def ofFields (c : Changes) : Except Fault Event := (c.apply {}).build

/-- As `ofFields`, except that `stamp` gives the identifier and the time that are not given. -/
def create (stamp : Stamp) (c : Changes) : Except Fault Event :=
  (c.apply { id := some stamp.id, time := some (.stamp stamp.time) }).build

/-- A new event that differs from this one in the given fields. -/
def replace (e : Event) (c : Changes) : Except Fault Event := (c.apply e.draft).build

end Event

end CloudEvents
