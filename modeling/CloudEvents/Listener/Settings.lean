import CloudEvents.Fault
import CloudEvents.Text.Casing
import CloudEvents.Text.CodePoints
import CloudEvents.Text.Search

/-! Settings of a listener: what is given, what the environment says, what holds otherwise. -/
namespace CloudEvents

/-- Methods as they may be given. -/
inductive MethodList
  | each (methods : List Scalar)
  /-- A text stands for its characters. -/
  | characters (s : String)
  deriving DecidableEq

def MethodList.toList : MethodList → List Scalar
  | each methods => methods
  | characters s => s.toList.map fun c => .text (String.ofList [c])

structure Settings where
  allowedMethods : List String
  requireBody : Bool
  rejectInvalid : Bool
  tracerName : Scalar
  deriving DecidableEq

/-- What is given explicitly. -/
structure GivenSettings where
  allowedMethods : Option MethodList := none
  requireBody : Option Bool := none
  rejectInvalid : Option Bool := none
  tracerName : Option Scalar := none

/-- The variables that are set. -/
abbrev Environment := String → Option String

namespace Settings

open Text

def methodsVariable : String := "CELISTENER_ALLOWED_METHODS"
def requireBodyVariable : String := "CELISTENER_REQUIRE_BODY"
def rejectInvalidVariable : String := "CELISTENER_REJECT_INVALID"

def defaultMethods : List String := ["POST"]
def defaultTracer : Scalar := .text "celistener"

/-- The spellings that switch something on. -/
def trueValues : List String := ["1", "true", "yes", "on"]

/-- Whether a variable switches something on. -/
def isOn (env : Environment) (name : String) : Bool :=
  trueValues.contains (lowercase (trim ((env name).getD "")))

/-- The methods that the environment allows: the pieces between commas that are not blank. -/
def environmentMethods (env : Environment) : List String :=
  let listed := trim ((env methodsVariable).getD "")
  let pieces := ((Text.splitAt ',' listed.toList).map String.ofList).filter fun m => !allBlank m
  if pieces = [] then defaultMethods else pieces

/-- A method as the allow-list has it. -/
def normalizeMethod (m : String) : String := uppercase (trim m)

/-- The entry of the allow-list that a given value stands for. -/
def methodEntry (m : Scalar) : Except Fault String := (m.asText "strip").map normalizeMethod

@[simp] theorem methodEntry_text (m : String) :
    methodEntry (.text m) = .ok (normalizeMethod m) := rfl

/-- A given list of methods counts unless it is empty. A switch that is given as off may still be on
in the environment. -/
def resolve (given : GivenSettings) (env : Environment) : Except Fault Settings := do
  let listed := (given.allowedMethods.map MethodList.toList).getD []
  let methods ←
    (if listed = [] then (environmentMethods env).map .text else listed).mapM methodEntry
  if methods.contains "" then throw .emptyMethodName
  return {
    allowedMethods := methods
    requireBody := given.requireBody.getD false || isOn env requireBodyVariable
    rejectInvalid := given.rejectInvalid.getD false || isOn env rejectInvalidVariable
    tracerName := given.tracerName.getD defaultTracer }

/-- Methods are compared letter by letter with those allowed. -/
def checkMethod (s : Settings) (method : Scalar) : Except Fault Unit :=
  if method ∈ s.allowedMethods.map .text then .ok () else .error (.unsupportedMethod method)

end Settings

end CloudEvents
