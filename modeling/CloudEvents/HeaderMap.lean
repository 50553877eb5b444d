import CloudEvents.Fault
import CloudEvents.OrderedMap
import CloudEvents.Text.Casing

/-! Headers under their names, for which letter case does not matter. -/
namespace CloudEvents

/-- Header values under lowercase names. -/
structure HeaderMap where
  entries : OrderedMap Scalar

namespace HeaderMap

/-- Of several headers with one name, in whatever case, the last value counts. -/
def ofList (items : List (String × Scalar)) : HeaderMap :=
  ⟨.ofList (items.map fun e => (Text.lowercase e.1, e.2))⟩

def get? (h : HeaderMap) (name : String) : Option Scalar := h.entries.get? (Text.lowercase name)

/-- The value of a header that has to be there. -/
def get (h : HeaderMap) (name : String) : Except Fault Scalar :=
  match h.get? name with
  | some v => .ok v
  | none => .error (.unknownHeader (Text.lowercase name))

/-- Whether there is such a header. What is not a text names none. -/
def contains (h : HeaderMap) : Scalar → Bool
  | .text name => (h.get? name).isSome
  | _ => false

def names (h : HeaderMap) : List String := h.entries.keys

def toList (h : HeaderMap) : List (String × Scalar) := h.entries.toList

def size (h : HeaderMap) : Nat := h.entries.size

/-- Whether two sets of headers answer every name alike. -/
def agrees (g h : HeaderMap) : Bool :=
  (g.entries.map Scalar.canonical).agrees (h.entries.map Scalar.canonical)

/-- The headers in one line, for a reader. -/
def display (h : HeaderMap) : String :=
  let items := h.toList.map fun e => Text.quoted e.1 ++ ": " ++ e.2.quoted
  "Headers(\x7b" ++ ", ".intercalate items ++ "\x7d)"

end HeaderMap

end CloudEvents
