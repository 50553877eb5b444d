import CloudEvents.Proofs.Text.Decimal
import CloudEvents.Time.Rfc3339

/-! Timestamps as they are spelled; a text has at most one spelling. -/
namespace CloudEvents

/-- Microseconds in a minute. -/
def minuteLength : Int := 60000000

theorem Calendar.daysIn_le (year month : Nat) : daysIn year month ≤ 31 := by
  unfold daysIn
  split <;> (try split) <;> omega

namespace Rfc3339

open Text

variable {m n width : Nat} {cs ds rest rest' : List Char} {y z : Zone} {s : String}

theorem number_eq_some_iff (hw : 0 < width) :
    number width cs = some (n, rest) ↔ n < 10 ^ width ∧ cs = decimal width n ++ rest := by
  simp only [number, Option.map_eq_some_iff, Prod.mk.injEq, Prod.exists, field_eq_some_iff]
  constructor
  · rintro ⟨digits, _, ⟨rfl, rfl, hall⟩, rfl, rfl⟩
    have hdigits : ∀ c ∈ digits, c.isDigit := List.all_eq_true.1 hall
    rw [decimal_ofDecimal hdigits (List.length_pos_iff.1 hw)]
    exact ⟨ofDecimal_lt hdigits, rfl⟩
  · rintro ⟨hn, rfl⟩
    have hall : (decimal width n).all Char.isDigit :=
      List.all_eq_true.2 fun c hc => isDigit_of_mem_decimal hc
    exact ⟨_, rest, ⟨rfl, length_decimal_of_lt hw hn, hall⟩, ofDecimal_decimal width n, rfl⟩

theorem number_decimal (hw : 0 < width) (h : n < 10 ^ width) :
    number width (decimal width n ++ rest) = some (n, rest) :=
  (number_eq_some_iff hw).2 ⟨h, rfl⟩

theorem decimal_append_inj (hw : 0 < width) (hm : m < 10 ^ width) (hn : n < 10 ^ width)
    (h : decimal width m ++ rest = decimal width n ++ rest') : m = n ∧ rest = rest' := by
  have hread : number width (decimal width m ++ rest) = some (m, rest) := number_decimal hw hm
  rw [h, number_decimal hw hn] at hread
  cases hread
  exact ⟨rfl, rfl⟩

/-- Holds where the digits of a fraction cannot go on, nor a fraction start. -/
def EndsFraction (cs : List Char) : Prop := ∀ c ∈ cs.head?, c ≠ '.' ∧ ¬ c.isDigit

theorem span_isDigit (hd : ∀ c ∈ ds, c.isDigit) (hr : EndsFraction rest) :
    (ds ++ rest).takeWhile Char.isDigit = ds ∧ (ds ++ rest).dropWhile Char.isDigit = rest := by
  rw [List.takeWhile_append_of_pos hd, List.dropWhile_append_of_pos hd]
  cases rest with
  | nil => simp
  | cons c r => simp [(hr c rfl).2]

/-- A fraction of a second with these digits, if there are any. -/
def fractionText (ds : List Char) : List Char := if ds = [] then [] else '.' :: ds

theorem fractionText_append_inj (hc : ∀ c ∈ cs, c.isDigit) (hd : ∀ c ∈ ds, c.isDigit)
    (hr : EndsFraction rest) (hs : EndsFraction rest')
    (h : fractionText cs ++ rest = fractionText ds ++ rest') : cs = ds ∧ rest = rest' := by
  unfold fractionText at h
  split at h <;> split at h
  · subst cs ds
    exact ⟨rfl, h⟩
  · subst h
    exact absurd rfl (hr '.' rfl).1
  · subst h
    exact absurd rfl (hs '.' rfl).1
  · have htail : cs ++ rest = ds ++ rest' := (List.cons.inj h).2
    obtain ⟨htake, hdrop⟩ := span_isDigit hc hr
    rw [htail, (span_isDigit hd hs).1] at htake
    rw [htail, (span_isDigit hd hs).2] at hdrop
    exact ⟨htake.symm, hdrop.symm⟩

/-- The zone of a timestamp as it is spelled. -/
inductive Zone where
  | utc (small : Bool)
  | numeric (west : Bool) (hours minutes : Nat)
  deriving DecidableEq, Repr

namespace Zone

def text : Zone → List Char
  | utc small => [if small then 'z' else 'Z']
  | numeric west hours minutes =>
    (if west then '-' else '+') :: decimal 2 hours ++ ':' :: decimal 2 minutes

/-- How many minutes its clocks are ahead of universal time. -/
def ahead : Zone → Int
  | utc _ => 0
  | numeric west hours minutes =>
    if west then -(hours * 60 + minutes : Nat) else (hours * 60 + minutes : Nat)

/-- Holds where each number has two digits. -/
def Fits : Zone → Prop
  | utc _ => True
  | numeric _ hours minutes => hours < 100 ∧ minutes < 100

/-- Holds of the zones of less than a day whose minutes are less than an hour. -/
def Proper : Zone → Prop
  | utc _ => True
  | numeric _ hours minutes => hours < 24 ∧ minutes < 60

instance : ∀ z : Zone, Decidable z.Proper
  | utc _ => inferInstanceAs (Decidable True)
  | numeric _ hours minutes => inferInstanceAs (Decidable (hours < 24 ∧ minutes < 60))

/-- Holds of the zones of less than a day. -/
def InDay : Zone → Prop
  | utc _ => True
  | numeric _ hours minutes => hours * 60 + minutes < 1440 ∧ minutes < 100

instance : ∀ z : Zone, Decidable z.InDay
  | utc _ => inferInstanceAs (Decidable True)
  | numeric _ hours minutes =>
    inferInstanceAs (Decidable (hours * 60 + minutes < 1440 ∧ minutes < 100))

/-- The minutes of a zone beside its hours. -/
def minutes : Zone → Nat
  | utc _ => 0
  | numeric _ _ minutes => minutes

/-- The same zone in capital letters. -/
def upper : Zone → Zone
  | utc _ => utc false
  | z => z

theorem Fits.upper (h : z.Fits) : z.upper.Fits := by
  cases z with
  | utc small => trivial
  | numeric west hours minutes => exact h

theorem InDay.fits (h : z.InDay) : z.Fits := by
  cases z with
  | utc small => trivial
  | numeric west hours minutes =>
    obtain ⟨hday, hminutes⟩ := h
    exact ⟨by omega, hminutes⟩

theorem Proper.inDay (h : z.Proper) : z.InDay := by
  cases z with
  | utc small => trivial
  | numeric west hours minutes =>
    obtain ⟨hhours, hminutes⟩ := h
    exact ⟨by omega, by omega⟩

theorem proper_iff (h : z.InDay) : z.Proper ↔ z.minutes < 60 := by
  cases z with
  | utc small => simp [Proper, minutes]
  | numeric west hours minutes =>
    obtain ⟨hday, -⟩ := h
    simp only [Proper, Zone.minutes]
    omega

theorem offset_lt_iff (h : z.Fits) :
    (-dayLength < z.ahead * minuteLength ∧ z.ahead * minuteLength < dayLength) ↔ z.InDay := by
  cases z with
  | utc small => simp [ahead, dayLength, InDay]
  | numeric west hours minutes =>
    obtain ⟨-, hminutes⟩ := h
    simp only [ahead, minuteLength, dayLength, InDay]
    cases west
    · simp only [Bool.false_eq_true, if_false]
      omega
    · simp only [if_true]
      omega

theorem endsFraction_text (z : Zone) : EndsFraction z.text := by
  intro c hc
  cases z with
  | utc small => cases small <;> cases hc <;> decide
  | numeric west hours minutes => cases west <;> cases hc <;> decide

theorem text_inj (hy : y.Fits) (hz : z.Fits) (h : y.text = z.text) : y = z := by
  cases y with
  | utc small =>
    cases z with
    | utc small' => cases small <;> cases small' <;> first | rfl | cases h
    | numeric west hours minutes => cases small <;> cases west <;> cases h
  | numeric west hours minutes =>
    cases z with
    | utc small => cases small <;> cases west <;> cases h
    | numeric west' hours' minutes' =>
      simp only [text, List.cons_append, List.cons.injEq] at h
      obtain ⟨hsign, hnumbers⟩ := h
      obtain ⟨rfl, htail⟩ := decimal_append_inj (by decide) hy.1 hz.1 hnumbers
      obtain rfl := decimal_inj (List.cons.inj htail).2
      cases west <;> cases west' <;> first | rfl | cases hsign

end Zone

/-- A date and time as they are spelled. -/
structure ClockSpelling where
  year : Nat
  month : Nat
  day : Nat
  hour : Nat
  minute : Nat
  second : Nat
  fraction : List Char
  deriving DecidableEq, Repr

namespace ClockSpelling

variable {v w : ClockSpelling}

def date (w : ClockSpelling) : List Char :=
  decimal 4 w.year ++ '-' :: decimal 2 w.month ++ '-' :: decimal 2 w.day

def time (w : ClockSpelling) : List Char :=
  decimal 2 w.hour ++ ':' :: decimal 2 w.minute ++ ':' :: decimal 2 w.second ++
    fractionText w.fraction

/-- What it says, with the fraction cut to microseconds. -/
def clock (w : ClockSpelling) : DateTime :=
  ⟨w.year, w.month, w.day, w.hour, w.minute, w.second, ofDecimal (fitRight 6 w.fraction)⟩

/-- Each number has its digits, and the fraction has digits only. -/
structure Fits (w : ClockSpelling) : Prop where
  year : w.year < 10000
  month : w.month < 100
  day : w.day < 100
  hour : w.hour < 100
  minute : w.minute < 100
  second : w.second < 100
  fraction : ∀ c ∈ w.fraction, c.isDigit

/-- Holds of the dates that exist, in years of four digits, with a time of day that exists. -/
def Proper (w : ClockSpelling) : Prop :=
  w.year < 10000 ∧ 1 ≤ w.month ∧ w.month ≤ 12 ∧
  1 ≤ w.day ∧ w.day ≤ Calendar.daysIn w.year w.month ∧
  w.hour < 24 ∧ w.minute < 60 ∧ w.second < 60 ∧ w.fraction.all Char.isDigit

instance (w : ClockSpelling) : Decidable w.Proper := by unfold Proper; infer_instance

theorem Proper.fits (h : w.Proper) : w.Fits := by
  obtain ⟨hyear, -, hmonth, -, hday, hhour, hminute, hsecond, hfraction⟩ := h
  have hdays := Calendar.daysIn_le w.year w.month
  exact ⟨hyear, by omega, by omega, by omega, by omega, by omega, List.all_eq_true.1 hfraction⟩

theorem valid_clock_iff (h : ∀ c ∈ w.fraction, c.isDigit) :
    w.clock.Valid ↔ 1 ≤ w.year ∧ w.Proper := by
  have hmicro : ofDecimal (fitRight 6 w.fraction) < 1000000 := by
    have hdigits : ∀ c ∈ fitRight 6 w.fraction, c.isDigit := by
      intro c hc
      rcases List.mem_append.1 hc with hc | hc
      · exact h c (List.mem_of_mem_take hc)
      · rw [List.eq_of_mem_replicate hc]
        rfl
    simpa [length_fitRight] using ofDecimal_lt hdigits
  simp only [DateTime.Valid, clock, Proper]
  constructor
  · rintro ⟨hpos, hyear, hmonth, hmonth', hday, hday', hhour, hminute, hsecond, -⟩
    exact ⟨hpos, by omega, hmonth, hmonth', hday, hday', hhour, hminute, hsecond,
      List.all_eq_true.2 h⟩
  · rintro ⟨hpos, hyear, hmonth, hmonth', hday, hday', hhour, hminute, hsecond, -⟩
    exact ⟨hpos, by omega, hmonth, hmonth', hday, hday', hhour, hminute, hsecond, hmicro⟩

theorem date_append_inj (hv : v.Fits) (hw : w.Fits) (h : v.date ++ rest = w.date ++ rest') :
    (v.year = w.year ∧ v.month = w.month ∧ v.day = w.day) ∧ rest = rest' := by
  simp only [date, List.append_assoc, List.cons_append] at h
  obtain ⟨hyear, h⟩ := decimal_append_inj (by decide) hv.year hw.year h
  obtain ⟨hmonth, h⟩ := decimal_append_inj (by decide) hv.month hw.month (List.cons.inj h).2
  obtain ⟨hday, h⟩ := decimal_append_inj (by decide) hv.day hw.day (List.cons.inj h).2
  exact ⟨⟨hyear, hmonth, hday⟩, h⟩

theorem time_append_inj (hv : v.Fits) (hw : w.Fits) (hr : EndsFraction rest)
    (hs : EndsFraction rest') (h : v.time ++ rest = w.time ++ rest') :
    (v.hour = w.hour ∧ v.minute = w.minute ∧ v.second = w.second ∧ v.fraction = w.fraction) ∧
      rest = rest' := by
  simp only [time, List.append_assoc, List.cons_append] at h
  obtain ⟨hhour, h⟩ := decimal_append_inj (by decide) hv.hour hw.hour h
  obtain ⟨hminute, h⟩ := decimal_append_inj (by decide) hv.minute hw.minute (List.cons.inj h).2
  obtain ⟨hsecond, h⟩ := decimal_append_inj (by decide) hv.second hw.second (List.cons.inj h).2
  obtain ⟨hfraction, h⟩ := fractionText_append_inj hv.fraction hw.fraction hr hs h
  exact ⟨⟨hhour, hminute, hsecond, hfraction⟩, h⟩

end ClockSpelling

/-- A timestamp as it is spelled. -/
structure Spelling extends ClockSpelling where
  small : Bool
  zone : Zone
  deriving DecidableEq, Repr

namespace Spelling

variable {v w : Spelling}

def text (w : Spelling) : List Char :=
  w.date ++ (if w.small then 't' else 'T') :: w.time ++ w.zone.text

/-- Holds where each number has its digits, and the fraction has digits only. -/
def Fits (w : Spelling) : Prop := w.toClockSpelling.Fits ∧ w.zone.Fits

/-- Holds of the timestamps of RFC 3339. -/
def Standard (w : Spelling) : Prop := w.toClockSpelling.Proper ∧ w.zone.Proper

instance (w : Spelling) : Decidable w.Standard := by unfold Standard; infer_instance

/-- The same timestamp in capital letters. -/
def upper (w : Spelling) : Spelling := { w with small := false, zone := w.zone.upper }

theorem Fits.upper (h : w.Fits) : w.upper.Fits := ⟨h.1, h.2.upper⟩

theorem Standard.fits (h : w.Standard) : w.Fits := ⟨h.1.fits, h.2.inDay.fits⟩

/-- A text has at most one spelling. -/
theorem text_inj (hv : v.Fits) (hw : w.Fits) (h : v.text = w.text) : v = w := by
  simp only [text, List.append_assoc, List.cons_append] at h
  obtain ⟨hdate, h⟩ := ClockSpelling.date_append_inj hv.1 hw.1 h
  obtain ⟨hletter, h⟩ := List.cons.inj h
  obtain ⟨htime, h⟩ := ClockSpelling.time_append_inj hv.1 hw.1 v.zone.endsFraction_text
    w.zone.endsFraction_text h
  have hzone : v.zone = w.zone := Zone.text_inj hv.2 hw.2 h
  have hsmall : v.small = w.small := by
    cases hv : v.small <;> cases hw : w.small <;> first | rfl | simp [hv, hw] at hletter
  obtain ⟨⟨_, _, _, _, _, _, _⟩, _, _⟩ := v
  obtain ⟨⟨_, _, _, _, _, _, _⟩, _, _⟩ := w
  simp_all

end Spelling

/-- Holds of the texts that are timestamps of RFC 3339. -/
def Standard (s : String) : Prop := ∃ w : Spelling, s.toList = w.text ∧ w.Standard

theorem standard_iff {w : Spelling} (hw : w.Fits) (h : s.toList = w.text) :
    Standard s ↔ w.Standard := by
  constructor
  · rintro ⟨v, hv, hstandard⟩
    have heq : v = w := Spelling.text_inj hstandard.fits hw (hv.symm.trans h)
    rwa [← heq]
  · intro hstandard
    exact ⟨w, h, hstandard⟩

end Rfc3339

end CloudEvents
