import CloudEvents.Text.Search

/-! Trace states: what the systems that a trace passed through left on it, newest first. -/
namespace CloudEvents

/-- Members of a trace state, each a key and a value. -/
abbrev TraceState := List (String × String)

namespace TraceState

open Text

/-- A trace state with more members than this is dropped as a whole. -/
def maxMembers : Nat := 32

def isLower (c : Char) : Bool := 'a' ≤ c && c ≤ 'z'

def isKeyChar (c : Char) : Bool := isLower c || c.isDigit || "_-*/".toList.contains c

/-- A first character of one class, and then at most `n` characters of keys. -/
def isName (first : Char → Bool) (n : Nat) : List Char → Bool
  | [] => false
  | c :: r => first c && decide (r.length ≤ n) && r.all isKeyChar

/-- A key is a name, or the name of a tenant and the name of a system. -/
def isKey (cs : List Char) : Bool :=
  match Text.splitAt '@' cs with
  | [name] => isName isLower 255 name
  | [tenant, system] =>
    isName (fun c => isLower c || c.isDigit) 240 tenant && isName isLower 13 system
  | _ => false

def isValueChar (c : Char) : Bool := ' ' ≤ c && c ≤ '~' && c != ',' && c != '='

/-- A value is visible text that does not end in a space. -/
def isValue (cs : List Char) : Bool :=
  cs != [] && decide (cs.length ≤ 256) && cs.all isValueChar && cs.getLast? != some ' '

def isMember (m : String × String) : Bool := isKey m.1.toList && isValue m.2.toList

/-- Holds of the trace states that can be sent. -/
def Valid (t : TraceState) : Prop :=
  t.length ≤ maxMembers ∧ (t.map Prod.fst).Nodup ∧ ∀ m ∈ t, isMember m

/-- Keeps the members that can be sent, and of several with one key the first. -/
def ofMembers (ms : List (String × String)) : TraceState :=
  if maxMembers < ms.length then []
  else (ms.filter isMember).foldl
    (fun kept m => if (kept.map Prod.fst).contains m.1 then kept else kept ++ [m]) []

/-- Characters that may stand around a comma. -/
def isPad (c : Char) : Bool := c = ' ' || c = '\t'

def dropPadEnd (cs : List Char) : List Char := (cs.reverse.dropWhile isPad).reverse

/-- Removes the padding on the side of each piece that faces a comma. -/
def unpad : List (List Char) → List (List Char)
  | [] => []
  | [p] => [p]
  | p :: q :: r => dropPadEnd p :: unpad (q.dropWhile isPad :: r)
termination_by l => l.length

/-- One member: a key, an equals sign, a value, and any padding. -/
def readMember (cs : List Char) : Option (String × String) :=
  match Text.splitAt '=' (dropPadEnd cs) with
  | [key, value] =>
    if isKey key && isValue value then some (String.ofList key, String.ofList value) else none
  | _ => none

/-- Reads a trace state, which is empty when any part of it cannot be read. -/
def read (s : String) : TraceState :=
  let pieces := (unpad (Text.splitAt ',' s.toList)).filter (· != [])
  match pieces.mapM readMember with
  | none => []
  | some ms =>
    if (ms.map Prod.fst).Nodup ∧ ms.length ≤ maxMembers then ms else []

def write (t : TraceState) : String :=
  ",".intercalate (t.map fun m => m.1 ++ "=" ++ m.2)

end TraceState

end CloudEvents
