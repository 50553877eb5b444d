import CloudEvents.Fault
import CloudEvents.Text.Casing
import CloudEvents.Text.CodePoints
import CloudEvents.Text.Search
import CloudEvents.Time.Timestamp

/-! Timestamps as text, read in the form of RFC 3339 and written in the shortest such form. -/
namespace CloudEvents.Rfc3339

open Text

/-- Takes a number of exactly `n` digits. -/
def number (n : Nat) (cs : List Char) : Option (Nat × List Char) :=
  (field n Char.isDigit cs).map fun (digits, rest) => (ofDecimal digits, rest)

/-- Takes an optional fraction of a second, cut to microseconds. -/
def fraction : List Char → Option (Nat × List Char)
  | '.' :: r =>
    if r.takeWhile Char.isDigit = [] then none
    else some (ofDecimal (fitRight 6 (r.takeWhile Char.isDigit)), r.dropWhile Char.isDigit)
  | cs => some (0, cs)

/-- A date and time, which need not exist. -/
def dateTime (cs : List Char) : Option (DateTime × List Char) := do
  let (year, cs) ← number 4 cs
  let cs ← mark '-' cs
  let (month, cs) ← number 2 cs
  let cs ← mark '-' cs
  let (day, cs) ← number 2 cs
  let cs ← mark 'T' cs
  let (hour, cs) ← number 2 cs
  let cs ← mark ':' cs
  let (minute, cs) ← number 2 cs
  let cs ← mark ':' cs
  let (second, cs) ← number 2 cs
  let (micro, cs) ← fraction cs
  some (⟨year, month, day, hour, minute, second, micro⟩, cs)

/-- Microseconds in so many hours and minutes; there may be more than an hour of minutes. -/
def span (hours minutes : Nat) : Int := (hours * 60 + minutes) * 60000000

/-- Hours and minutes up to the end. -/
def hoursMinutes (cs : List Char) : Option Int := do
  let (hours, cs) ← number 2 cs
  let cs ← mark ':' cs
  let (minutes, cs) ← number 2 cs
  if cs = [] then some (span hours minutes) else none

/-- An offset up to the end. -/
def offset : List Char → Option Int
  | ['Z'] => some 0
  | '+' :: r => hoursMinutes r
  | '-' :: r => (hoursMinutes r).map fun n => -n
  | _ => none

/-- What a text in the form of a timestamp says, whether or not such a moment exists. -/
def parts (cs : List Char) : Option (DateTime × Int) := do
  let (clock, cs) ← dateTime cs
  let ahead ← offset cs
  some (clock, ahead)

/-- Blanks around the text and the case of its letters do not matter. -/
def read (s : String) : Except Fault Timestamp :=
  match parts (uppercase (trim s)).toList with
  | none => .error (.malformedTimestamp s)
  | some (clock, ahead) =>
    match Timestamp.ofParts? clock ahead with
    | none => .error (.impossibleTimestamp s)
    | some t => .ok t

/-- Microseconds are written as six digits, unless there are none. -/
def microText (n : Nat) : List Char := if n = 0 then [] else '.' :: decimal 6 n

def clockText (t : DateTime) : List Char :=
  decimal 4 t.year ++ '-' :: decimal 2 t.month ++ '-' :: decimal 2 t.day ++ 'T' ::
  decimal 2 t.hour ++ ':' :: decimal 2 t.minute ++ ':' :: decimal 2 t.second ++ microText t.micro

/-- A length of time under a day. Seconds are written only where there are some. -/
def spanText (n : Nat) : List Char :=
  let seconds := n / 1000000 % 60
  let micro := n % 1000000
  decimal 2 (n / 3600000000) ++ ':' :: decimal 2 (n / 60000000 % 60) ++
    if seconds = 0 ∧ micro = 0 then [] else ':' :: decimal 2 seconds ++ microText micro

def offsetText (n : Int) : List Char :=
  if n = 0 then ['Z'] else (if n < 0 then '-' else '+') :: spanText n.natAbs

/-- What stands behind the time of day: nothing where no offset is known. -/
def zoneText : Option Int → List Char
  | some n => offsetText n
  | none => []

def write (t : Timestamp) : String := String.ofList (clockText t.clock ++ zoneText t.offset)

/-- A date and time without an offset. -/
def writeClock (t : DateTime) : String := String.ofList (clockText t)

end CloudEvents.Rfc3339
