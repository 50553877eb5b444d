import CloudEvents.Fault.Kind
import CloudEvents.Scalar

/-! Faults by their causes, with their kinds and their messages. -/
namespace CloudEvents

inductive Fault
  /-- The content type asks for an event inside a document. -/
  | unsupportedMode (contentType : String)
  /-- The text is not in the form of a timestamp. -/
  | malformedTimestamp (text : String)
  /-- The text has the form of a timestamp, but no such moment exists. -/
  | impossibleTimestamp (text : String)
  | missingAttribute (name : String)
  | unsupportedVersion (version : String)
  | malformedLength (text : String)
  /-- Reading the body failed. -/
  | bodyUnread (cause : Fault)
  | emptyBody
  /-- Writing the event with this id failed. -/
  | writeFailed (id : String) (cause : Fault)
  | unsupportedMethod (method : Scalar)
  /-- An operation was asked of a value that does not offer it. -/
  | missingOperation (value : Scalar) (operation : String)
  /-- An extension was given a name that is taken. -/
  | reservedExtension (name : String)
  /-- The payload was a text. -/
  | textPayload
  /-- The payload had a number that is no byte. -/
  | byteRange
  /-- The payload was to have a negative length. -/
  | negativeCount
  /-- A count was too large to index memory with. -/
  | indexLimit
  /-- The payload was to be longer than any payload. -/
  | sizeLimit
  /-- A number had more digits than are converted. -/
  | digitLimit (digits : Nat)
  | closedStream
  /-- An allow-list had a blank entry. -/
  | emptyMethodName
  | unknownHeader (name : String)
  /-- A listener of this name was given no handler. -/
  | unhandled (listener : String)
  /-- Raised outside of this library. -/
  | stated (kind : Fault.Kind) (message : String)
  deriving DecidableEq, Repr

namespace Fault

def kind : Fault → Kind
  | unsupportedMode _ => .unsupportedMode
  | malformedTimestamp _ | impossibleTimestamp _ => .malformedTimestamp
  | missingAttribute _ => .missingAttribute
  | unsupportedVersion _ => .unsupportedVersion
  | malformedLength _ => .malformedLength
  | bodyUnread _ => .bodyUnread
  | emptyBody => .emptyBody
  | writeFailed _ _ => .encode
  | unsupportedMethod _ => .unsupportedMethod
  | missingOperation _ _ => .missingOperation
  | reservedExtension _ | byteRange | negativeCount | digitLimit _ | closedStream
  | emptyMethodName => .anyValue
  | textPayload => .wrongType
  | indexLimit | sizeLimit => .overflow
  | unknownHeader _ => .missingKey
  | unhandled _ => .notImplemented
  | stated k _ => k

/-- The most digits that a number is read from. -/
def maxDigits : Nat := 4300

/-- The largest count that indexes memory. -/
def maxIndex : Nat := 0x7fffffffffffffff

/-- The length of the longest payload that can be named: what it takes beside its bytes is counted
in. -/
def maxSize : Nat := maxIndex - 33

def message : Fault → String
  | unsupportedMode c => "Content mode for " ++ Text.quoted c ++
      " is not supported; only binary content mode is implemented"
  | malformedTimestamp t | impossibleTimestamp t =>
      "Attribute 'time' is not an RFC 3339 timestamp: " ++ Text.quoted t
  | missingAttribute n => "Missing required CloudEvents attribute: " ++ n
  | unsupportedVersion v => "Unsupported CloudEvents specversion: " ++ Text.quoted v
  | malformedLength t => "Content-Length is not a non-negative integer: " ++ Text.quoted t
  | bodyUnread c => "Failed to read request body: " ++ c.message
  | emptyBody => "Empty body in request"
  | writeFailed id c => "Failed to write CloudEvent " ++ Text.quoted id ++ ": " ++ c.message
  | unsupportedMethod m => "Method not implemented: " ++ m.render
  | missingOperation v operation =>
      Text.quoted v.sort ++ " object has no attribute " ++ Text.quoted operation
  | reservedExtension n =>
      "Extension name " ++ Text.quoted n ++ " collides with a standard attribute"
  | textPayload => "CloudEvent data must be bytes, not str"
  | byteRange => "bytes must be in range(0, 256)"
  | negativeCount => "negative count"
  | indexLimit => "cannot fit 'int' into an index-sized integer"
  | sizeLimit => "byte string is too large"
  | digitLimit n => "Exceeds the limit (" ++ Text.signed maxDigits ++
      " digits) for integer string conversion: value has " ++ Text.signed n ++
      " digits; use sys.set_int_max_str_digits() to increase the limit"
  | closedStream => "I/O operation on closed file."
  | emptyMethodName => "allowed_methods must not contain empty method names"
  | unknownHeader n => Text.quoted n
  | unhandled l => l ++ " must override consume_event() or be given a handler"
  | stated _ m => m

/-- The kind of the fault that led to this one. -/
def cause? : Fault → Option Kind
  | impossibleTimestamp _ => some .anyValue
  | bodyUnread c | writeFailed _ c => some c.kind
  | _ => none

/-- The kind's name and the message, as a status line of a trace shows them. -/
def summary (f : Fault) : String := f.kind.name ++ ": " ++ f.message

/-- A fault of a kind with one text. For a kind that says what went wrong the text is what it went
wrong with, and for any other kind it is the message. -/
def ofKind (kind : Kind) (s : String) : Fault :=
  match kind with
  | .unsupportedMode => unsupportedMode s
  | .malformedTimestamp => malformedTimestamp s
  | .missingAttribute => missingAttribute s
  | .unsupportedVersion => unsupportedVersion s
  | .malformedLength => malformedLength s
  | .unsupportedMethod => unsupportedMethod (.text s)
  | k => if k = .missingKey then unknownHeader s else stated k s

/-- A fault with the number of an error of the system. Of the faults of moving bytes, the number
tells the kind where nothing else does. -/
def numbered (kind : Kind) (n : Int) (s : String) : Fault :=
  if kind = .anyIo then stated (Kind.ofNumber n) ("[Errno " ++ Text.signed n ++ "] " ++ s)
  else if kind.belongsTo .anyIo then stated kind ("[Errno " ++ Text.signed n ++ "] " ++ s)
  else stated kind ("(" ++ Text.signed n ++ ", " ++ Text.quoted s ++ ")")

end Fault

/-- The text that a value is, for an operation that only texts offer. -/
def Scalar.asText (operation : String) : Scalar → Except Fault String
  | text s => .ok s
  | v => .error (.missingOperation v operation)

@[simp] theorem Scalar.asText_text (operation s : String) :
    (text s).asText operation = .ok s := rfl

end CloudEvents
