/-! The Gregorian calendar, and timestamps with the clock that shows them. -/
namespace CloudEvents

namespace Calendar

def isLeap (year : Nat) : Bool := year % 4 == 0 && (year % 100 != 0 || year % 400 == 0)

/-- The days of a month, and none for a number that names no month. -/
def daysIn (year : Nat) : Nat → Nat
  | 1 | 3 | 5 | 7 | 8 | 10 | 12 => 31
  | 4 | 6 | 9 | 11 => 30
  | 2 => if isLeap year then 29 else 28
  | _ => 0

/-- The days of the months before this one. -/
def daysTo (year : Nat) : Nat → Nat
  | 0 => 0
  | month + 1 => daysTo year month + daysIn year month

/-- The days of the years before this one, from year 1 on. -/
def daysBefore (year : Nat) : Nat :=
  let y := year - 1
  y * 365 + y / 4 - y / 100 + y / 400

end Calendar

/-- A date and a time of day, as a clock on the wall shows them. -/
structure DateTime where
  year : Nat
  month : Nat
  day : Nat
  hour : Nat
  minute : Nat
  second : Nat
  micro : Nat
  deriving DecidableEq, Repr

namespace DateTime

open Calendar

/-- Holds of the dates that exist, in years of up to four digits, with a time of day that exists. -/
def Valid (t : DateTime) : Prop :=
  1 ≤ t.year ∧ t.year ≤ 9999 ∧ 1 ≤ t.month ∧ t.month ≤ 12 ∧
  1 ≤ t.day ∧ t.day ≤ daysIn t.year t.month ∧
  t.hour < 24 ∧ t.minute < 60 ∧ t.second < 60 ∧ t.micro < 1000000

instance (t : DateTime) : Decidable t.Valid := by unfold Valid; infer_instance

/-- Days since the first day of year 1. -/
def dayNumber (t : DateTime) : Nat :=
  daysBefore t.year + daysTo t.year t.month + (t.day - 1)

/-- Microseconds since the start of year 1, on the same clock. -/
def microseconds (t : DateTime) : Nat :=
  (((t.dayNumber * 24 + t.hour) * 60 + t.minute) * 60 + t.second) * 1000000 + t.micro

end DateTime

/-- Microseconds in a day. -/
def dayLength : Int := 86400000000

/-- A date and time in a zone, whose clocks are `offset` microseconds ahead of universal time. A
zone may leave open how far ahead they are. -/
structure Timestamp where
  clock : DateTime
  offset : Option Int
  valid : clock.Valid
  offset_lt : ∀ n ∈ offset, -dayLength < n ∧ n < dayLength
  deriving DecidableEq

/-- What timestamps are compared by. -/
inductive Moment
  /-- A moment in microseconds of universal time. -/
  | universal (micros : Int)
  /-- What a clock shows that is not known to be ahead of any other. -/
  | shown (clock : DateTime)
  deriving DecidableEq

namespace Timestamp

/-- The timestamp with these parts, if there is one. -/
def ofParts? (clock : DateTime) (offset : Int) : Option Timestamp :=
  if h : clock.Valid ∧ -dayLength < offset ∧ offset < dayLength then
    some ⟨clock, some offset, h.1, by rintro n ⟨⟩; exact h.2⟩
  else none

def moment (t : Timestamp) : Moment :=
  match t.offset with
  | some n => .universal (t.clock.microseconds - n)
  | none => .shown t.clock

theorem ofParts?_eq_some_iff {clock : DateTime} {offset : Int} {t : Timestamp} :
    ofParts? clock offset = some t ↔ t.clock = clock ∧ t.offset = some offset := by
  unfold ofParts?
  constructor
  · intro h
    split at h
    · cases h; exact ⟨rfl, rfl⟩
    · simp at h
  · rintro ⟨rfl, h⟩
    rw [dif_pos ⟨t.valid, t.offset_lt offset h⟩]
    simp only [← h]

theorem ofParts?_eq_none_iff {clock : DateTime} {offset : Int} :
    ofParts? clock offset = none ↔
      ¬ (clock.Valid ∧ -dayLength < offset ∧ offset < dayLength) := by
  unfold ofParts?
  split <;> simp_all

end Timestamp

end CloudEvents
