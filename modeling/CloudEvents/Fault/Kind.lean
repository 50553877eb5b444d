/-! Kinds of fault; a kind belongs to itself and to every wider kind above it. -/
namespace CloudEvents.Fault

inductive Kind
  /-- What goes wrong with an event, its reading, its writing or its exchange. -/
  | cloudEvent
  | decode
  | unsupportedMode
  | malformedTimestamp
  | missingAttribute
  | unsupportedVersion
  | malformedLength
  | bodyUnread
  | emptyBody
  | encode
  | protocol
  | unsupportedMethod
  /-- What goes wrong while bytes are moved. -/
  | io (name : String)
  /-- What goes wrong with a value. -/
  | value (name : String)
  /-- What goes wrong with neither. -/
  | other (name : String)
  deriving DecidableEq, Repr

namespace Kind

/-- The widest kind of what goes wrong while bytes are moved. -/
def anyIo : Kind := io "OSError"

/-- The widest kind of what goes wrong with a value. -/
def anyValue : Kind := value "ValueError"

def overflow : Kind := other "OverflowError"
def missingKey : Kind := other "KeyError"
def missingOperation : Kind := other "AttributeError"
def wrongType : Kind := other "TypeError"
def notImplemented : Kind := other "NotImplementedError"

/-- The kind itself first, then the wider kinds that it belongs to. -/
def lineage : Kind → List Kind
  | k@unsupportedMode | k@malformedTimestamp | k@missingAttribute | k@unsupportedVersion
  | k@malformedLength | k@bodyUnread | k@emptyBody => [k, decode, cloudEvent, anyValue]
  | decode => [decode, cloudEvent, anyValue]
  | encode => [encode, cloudEvent, anyIo]
  | unsupportedMethod => [unsupportedMethod, protocol, cloudEvent]
  | protocol => [protocol, cloudEvent]
  | k@(io _) => if k = anyIo then [anyIo] else [k, anyIo]
  | k@(value _) => if k = anyValue then [anyValue] else [k, anyValue]
  | k => [k]

def belongsTo (k wide : Kind) : Bool := k.lineage.contains wide

def name : Kind → String
  | cloudEvent => "CloudEventError"
  | decode => "DecodeError"
  | unsupportedMode => "UnsupportedMode"
  | malformedTimestamp => "MalformedTimestamp"
  | missingAttribute => "MissingRequiredAttribute"
  | unsupportedVersion => "UnsupportedSpecVersion"
  | malformedLength => "MalformedContentLength"
  | bodyUnread => "BodyReadError"
  | emptyBody => "EmptyBody"
  | encode => "EncodeError"
  | protocol => "ProtocolError"
  | unsupportedMethod => "UnsupportedMethod"
  | io name | value name | other name => name

/-- The name with the place where the kind is declared, for those of this library. -/
def fullName (k : Kind) : String :=
  if k.belongsTo cloudEvent then "celistener.errors." ++ k.name else k.name

/-- The kinds of this library. -/
def own : List Kind := [
  cloudEvent, decode, unsupportedMode, malformedTimestamp, missingAttribute, unsupportedVersion,
  malformedLength, bodyUnread, emptyBody, encode, protocol, unsupportedMethod]

/-- The names of what may go wrong while bytes are moved. -/
def ioNames : List String := [
  "OSError", "BlockingIOError", "ChildProcessError", "ConnectionError", "BrokenPipeError",
  "ConnectionAbortedError", "ConnectionRefusedError", "ConnectionResetError", "FileExistsError",
  "FileNotFoundError", "InterruptedError", "IsADirectoryError", "NotADirectoryError",
  "PermissionError", "ProcessLookupError", "TimeoutError"]

/-- Further names of `anyIo`. -/
def anyIoNames : List String := ["IOError", "EnvironmentError"]

/-- The names of what may go wrong with a value. -/
def valueNames : List String := ["ValueError", "UnicodeError"]

/-- The kind with a name. -/
def ofName (name : String) : Kind :=
  match own.find? (·.name == name) with
  | some k => k
  | none =>
    if name ∈ ioNames then io name
    else if name ∈ anyIoNames then anyIo
    else if name ∈ valueNames then value name
    else other name

/-- The errors of the system that have a kind of their own, by their numbers. -/
def numbered : List (Int × Kind) := [
  (1, io "PermissionError"),
  (2, io "FileNotFoundError"),
  (3, io "ProcessLookupError"),
  (4, io "InterruptedError"),
  (10, io "ChildProcessError"),
  (11, io "BlockingIOError"),
  (13, io "PermissionError"),
  (17, io "FileExistsError"),
  (20, io "NotADirectoryError"),
  (21, io "IsADirectoryError"),
  (32, io "BrokenPipeError"),
  (103, io "ConnectionAbortedError"),
  (104, io "ConnectionResetError"),
  (108, io "BrokenPipeError"),
  (110, io "TimeoutError"),
  (111, io "ConnectionRefusedError"),
  (114, io "BlockingIOError"),
  (115, io "BlockingIOError")]

/-- The kind of an error of the system. -/
def ofNumber (n : Int) : Kind := (numbered.lookup n).getD anyIo

theorem belongsTo_self (k : Kind) : k.belongsTo k := by
  cases k with
  | io name => by_cases h : io name = anyIo <;> simp [belongsTo, lineage, h]
  | value name => by_cases h : value name = anyValue <;> simp [belongsTo, lineage, h]
  | _ => simp [belongsTo, lineage]

theorem belongsTo_anyIo (name : String) : (io name).belongsTo anyIo := by
  by_cases h : io name = anyIo <;> simp [belongsTo, lineage, h]

theorem belongsTo_anyValue (name : String) : (value name).belongsTo anyValue := by
  by_cases h : value name = anyValue <;> simp [belongsTo, lineage, h]

end Kind

end CloudEvents.Fault
