import CloudEvents.Event
import CloudEvents.Text.Digits
import CloudEvents.Text.Search
import CloudEvents.Trace.State

/-! Span contexts, their text as the parent of a trace, and the events that carry them. -/
namespace CloudEvents

structure SpanContext where
  traceId : Nat
  spanId : Nat
  flags : Nat := 1
  /-- Whether the span was seen in a message rather than started here. -/
  remote : Bool := false
  state : TraceState := []
  deriving DecidableEq

namespace SpanContext

/-- The context where there is no span. -/
def absent : SpanContext := ⟨0, 0, 0, false, []⟩

/-- The largest number of 32 hexadecimal digits. -/
def maxTraceId : Nat := 0xffffffffffffffffffffffffffffffff

/-- The largest number of 16 hexadecimal digits. -/
def maxSpanId : Nat := 0xffffffffffffffff

/-- Holds of the contexts whose two numbers are not zero and fit their fields. -/
def Valid (c : SpanContext) : Prop :=
  0 < c.traceId ∧ c.traceId ≤ maxTraceId ∧ 0 < c.spanId ∧ c.spanId ≤ maxSpanId

instance (c : SpanContext) : Decidable c.Valid := by unfold Valid; infer_instance

end SpanContext

end CloudEvents

namespace CloudEvents.TraceParent

open Text

/-- Takes `n` hexadecimal digits. -/
def hexField (n : Nat) (cs : List Char) : Option (List Char × List Char) := field n isHexDigit cs

/-- The text up to the end of its line, where only one line is allowed to end. -/
def lastLine (cs : List Char) : List Char := if cs.getLast? = some '\n' then cs.dropLast else cs

/-- What may follow the flags: padding, or a dash and more fields. Says whether there are more. -/
def rest (cs : List Char) : Option Bool :=
  match lastLine cs with
  | '-' :: r => if r.contains '\n' then none else some true
  | pad => if pad.all TraceState.isPad then some false else none

/-- Reads the context of a span seen elsewhere, with no state. -/
def read (s : String) : Option SpanContext := do
  let (version, cs) ← hexField 2 (s.toList.dropWhile TraceState.isPad)
  let cs ← mark '-' cs
  let (trace, cs) ← hexField 32 cs
  let cs ← mark '-' cs
  let (span, cs) ← hexField 16 cs
  let cs ← mark '-' cs
  let (flags, cs) ← hexField 2 cs
  let more ← rest cs
  if version = ['f', 'f'] ∨ (version = ['0', '0'] ∧ more) then none
  else if ofHex trace = 0 ∨ ofHex span = 0 then none
  else some ⟨ofHex trace, ofHex span, ofHex flags, true, []⟩

def write (c : SpanContext) : String :=
  String.ofList <| '0' :: '0' :: '-' :: hex 32 c.traceId ++ '-' :: hex 16 c.spanId ++
    '-' :: hex 2 c.flags

end CloudEvents.TraceParent

namespace CloudEvents.Event

/-- The context that an event carries, if it carries one that can be read. -/
def traceContext? (e : Event) : Option SpanContext := do
  let parent ← e.extensions.get? Attribute.traceParent
  let context ← TraceParent.read parent
  let state := (e.extensions.get? Attribute.traceState).map TraceState.read
  some { context with state := state.getD [] }

/-- The extensions with a context in the place of one they may have had. -/
def carry (context : SpanContext) (extensions : OrderedMap String) : OrderedMap String :=
  let parent := (extensions.erase Attribute.traceState).insert Attribute.traceParent
    (TraceParent.write context)
  if context.state = [] then parent
  else parent.insert Attribute.traceState (TraceState.write context.state)

/-- The event with the context of a span. An invalid context leaves the event alone. -/
def withTrace (e : Event) (context : SpanContext) : Event :=
  if context.Valid then { e with extensions := carry context e.extensions } else e

end CloudEvents.Event
