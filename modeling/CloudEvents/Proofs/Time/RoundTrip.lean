import CloudEvents.Proofs.Time.Reading

/-! Timestamps written and read back. -/
namespace CloudEvents

/-- Holds of the timestamps whose clock is known to be whole minutes ahead of universal time. -/
def Timestamp.WholeMinutes (t : Timestamp) : Prop := ∃ n ∈ t.offset, minuteLength ∣ n

instance (t : Timestamp) : Decidable t.WholeMinutes := by
  unfold Timestamp.WholeMinutes
  infer_instance

namespace Rfc3339

open Text

variable {n : Nat} {rest : List Char} {t : Timestamp} {s : String}

/-- The digits of the microseconds as they are written. -/
def microDigits (n : Nat) : List Char := if n = 0 then [] else decimal 6 n

theorem isDigit_of_mem_microDigits {c : Char} (h : c ∈ microDigits n) : c.isDigit := by
  unfold microDigits at h
  split at h
  · cases h
  · exact isDigit_of_mem_decimal h

theorem ofDecimal_microDigits (h : n < 1000000) : ofDecimal (fitRight 6 (microDigits n)) = n := by
  unfold microDigits
  split
  · subst n
    rfl
  · have hlen : (decimal 6 n).length = 6 := length_decimal_of_lt (by decide) h
    simp [fitRight, hlen, List.take_of_length_le, ofDecimal_decimal]

theorem microText_eq (n : Nat) : microText n = fractionText (microDigits n) := by
  rw [microText, fractionText, microDigits]
  by_cases h0 : n = 0
  · rw [if_pos h0, if_pos h0, if_pos rfl]
  · rw [if_neg h0, if_neg h0, if_neg decimal_ne_nil]

theorem microText_subset (n : Nat) : microText n ⊆ plainChars := by
  rw [microText_eq]
  exact fractionText_subset fun _ hc => isDigit_of_mem_microDigits hc

namespace ClockSpelling

/-- The spelling that a date and time is written in. -/
def ofClock (t : DateTime) : ClockSpelling :=
  ⟨t.year, t.month, t.day, t.hour, t.minute, t.second, microDigits t.micro⟩

theorem clock_ofClock {t : DateTime} (h : t.Valid) : (ofClock t).clock = t := by
  obtain ⟨-, -, -, -, -, -, -, -, -, hmicro⟩ := h
  rw [clock, ofClock, ofDecimal_microDigits hmicro]

theorem fits_ofClock {t : DateTime} (h : t.Valid) : (ofClock t).Fits := by
  obtain ⟨-, hyear, -, hmonth, -, hday, hhour, hminute, hsecond, -⟩ := h
  have hdays := Calendar.daysIn_le t.year t.month
  refine ⟨?_, ?_, ?_, ?_, ?_, ?_, fun c hc => isDigit_of_mem_microDigits hc⟩ <;>
    simp only [ofClock] <;> omega

end ClockSpelling

theorem clockText_eq (t : DateTime) :
    clockText t = (ClockSpelling.ofClock t).date ++ 'T' :: (ClockSpelling.ofClock t).time := by
  simp only [clockText, ClockSpelling.date, ClockSpelling.time, ClockSpelling.ofClock, microText_eq,
    List.append_assoc, List.cons_append]

theorem dateTime_clockText {t : DateTime} (h : t.Valid) (hr : EndsFraction rest) :
    dateTime (clockText t ++ rest) = some (t, rest) := by
  rw [clockText_eq, dateTime_text (ClockSpelling.fits_ofClock h) hr, ClockSpelling.clock_ofClock h]

theorem hoursMinutes_spanText (h : n < 86400000000) :
    hoursMinutes (spanText n) = if 60000000 ∣ n then some (n : Int) else none := by
  have hhours : n / 3600000000 < 10 ^ 2 := by omega
  have hminutes : n / 60000000 % 60 < 10 ^ 2 := by omega
  simp only [hoursMinutes, spanText, List.append_assoc, List.cons_append,
    number_decimal (by decide : 0 < 2) hhours, number_decimal (by decide : 0 < 2) hminutes,
    mark_cons, Option.bind_eq_bind, Option.bind_some]
  by_cases hn : 60000000 ∣ n
  · have hzero : n / 1000000 % 60 = 0 ∧ n % 1000000 = 0 := by omega
    rw [if_pos hzero, if_pos rfl, if_pos hn]
    congr 1
    simp only [span]
    omega
  · have hsome : ¬ (n / 1000000 % 60 = 0 ∧ n % 1000000 = 0) := by omega
    rw [if_neg hsome, if_neg (List.cons_ne_nil _ _), if_neg hn]

theorem offset_offsetText {n : Int} (h : -dayLength < n ∧ n < dayLength) :
    offset (offsetText n) = if minuteLength ∣ n then some n else none := by
  simp only [dayLength] at h
  have habs : n.natAbs < 86400000000 := by omega
  have hdvd : 60000000 ∣ n.natAbs ↔ minuteLength ∣ n := by
    unfold minuteLength
    omega
  by_cases h0 : n = 0
  · subst h0
    rfl
  · rw [offsetText, if_neg h0]
    by_cases hneg : n < 0
    · rw [if_pos hneg, offset, hoursMinutes_spanText habs]
      by_cases hd : minuteLength ∣ n
      · rw [if_pos (hdvd.2 hd), if_pos hd, Option.map_some]
        congr 1
        omega
      · rw [if_neg (mt hdvd.1 hd), if_neg hd, Option.map_none]
    · rw [if_neg hneg, offset, hoursMinutes_spanText habs]
      by_cases hd : minuteLength ∣ n
      · rw [if_pos (hdvd.2 hd), if_pos hd]
        congr 1
        omega
      · rw [if_neg (mt hdvd.1 hd), if_neg hd]

theorem clockText_subset {t : DateTime} (h : t.Valid) : clockText t ⊆ capitalChars := by
  have hfraction := (ClockSpelling.fits_ofClock h).fraction
  have hdate := List.Subset.trans (date_subset (ClockSpelling.ofClock t)) plainChars_subset
  have htime := List.Subset.trans (time_subset hfraction) plainChars_subset
  rw [clockText_eq, List.append_subset, List.cons_subset]
  exact ⟨hdate, List.mem_cons_self, htime⟩

theorem offsetText_subset_of_ne {k : Int} (h : k ≠ 0) : offsetText k ⊆ plainChars := by
  rw [offsetText, if_neg h, List.cons_subset, spanText]
  refine ⟨by split <;> simp only [marks_mem_plainChars], ?_⟩
  split <;> simp only [List.append_subset, List.cons_subset, List.nil_subset, decimal_subset,
    microText_subset, marks_mem_plainChars, and_self]

theorem offsetText_subset (k : Int) : offsetText k ⊆ capitalChars := by
  by_cases h : k = 0
  · subst h
    decide
  · exact List.Subset.trans (offsetText_subset_of_ne h) plainChars_subset

theorem zoneText_subset (o : Option Int) : zoneText o ⊆ capitalChars := by
  cases o with
  | none => exact List.nil_subset _
  | some n => exact offsetText_subset n

theorem zoneText_subset_of_ne {o : Option Int} (h : o ≠ some 0) : zoneText o ⊆ plainChars := by
  cases o with
  | none => exact List.nil_subset _
  | some n => exact offsetText_subset_of_ne fun hn => h (congrArg some hn)

/-- Only universal time is written with a letter at the end. -/
theorem write_eq_append_iff : (∃ front, write t = front ++ "Z") ↔ t.offset = some 0 := by
  constructor
  · rintro ⟨front, h⟩
    by_contra hne
    -- the last character stands behind the date, and in any other zone no letter does
    let w := ClockSpelling.ofClock t.clock
    have hsplit : (write t).toList = (w.date ++ ['T']) ++ (w.time ++ zoneText t.offset) := by
      rw [write, String.toList_ofList, clockText_eq]
      simp [w]
    have hnil : w.time ++ zoneText t.offset ≠ [] := by simp [w, ClockSpelling.time]
    have hlast : (w.time ++ zoneText t.offset).getLast? = some 'Z' := by
      rw [← List.getLast?_append_of_ne_nil _ hnil, ← hsplit, h, String.toList_append]
      exact List.getLast?_concat
    have hplain : w.time ++ zoneText t.offset ⊆ plainChars :=
      List.append_subset.2 ⟨time_subset (ClockSpelling.fits_ofClock t.valid).fraction,
        zoneText_subset_of_ne hne⟩
    exact absurd (hplain (List.mem_of_getLast? hlast)) (by decide)
  · intro h
    refine ⟨writeClock t.clock, ?_⟩
    rw [write, writeClock, h]
    exact String.ofList_append

theorem write_subset (t : Timestamp) : (write t).toList ⊆ capitalChars := by
  rw [write, String.toList_ofList, List.append_subset]
  exact ⟨clockText_subset t.valid, zoneText_subset t.offset⟩

theorem trim_write (t : Timestamp) : trim (write t) = write t :=
  trim_eq_self fun _ hc =>
    (isBlank_of_mem_stampChars (capitalChars_subset (write_subset t hc))).2

theorem uppercase_write (t : Timestamp) : uppercase (write t) = write t :=
  uppercase_eq_self fun _ hc => (upperChar_of_mem_capitalChars (write_subset t hc)).2

theorem endsFraction_zoneText (o : Option Int) : EndsFraction (zoneText o) := by
  intro c hc
  cases o with
  | none => cases hc
  | some n =>
    rw [zoneText, offsetText] at hc
    split at hc
    · cases hc
      decide
    · split at hc <;> cases hc <;> decide

theorem offset_zoneText (t : Timestamp) :
    offset (zoneText t.offset) = if t.WholeMinutes then t.offset else none := by
  cases h : t.offset with
  | none => simp [zoneText, offset]
  | some n =>
    have hwhole : t.WholeMinutes ↔ minuteLength ∣ n := by simp [Timestamp.WholeMinutes, h]
    rw [zoneText, offset_offsetText (t.offset_lt n h)]
    by_cases hn : minuteLength ∣ n
    · rw [if_pos hn, if_pos (hwhole.2 hn)]
    · rw [if_neg hn, if_neg (mt hwhole.1 hn)]

theorem parts_write (t : Timestamp) : parts (write t).toList =
    if t.WholeMinutes then t.offset.map fun n => (t.clock, n) else none := by
  have hclock := dateTime_clockText t.valid (endsFraction_zoneText t.offset)
  rw [parts, write, String.toList_ofList, hclock]
  simp only [Option.bind_eq_bind, Option.bind_some, offset_zoneText]
  by_cases h : t.WholeMinutes
  · rw [if_pos h, if_pos h, Option.map_eq_bind]
    rfl
  · rw [if_neg h, if_neg h, Option.bind_none]

theorem read_write (h : t.WholeMinutes) : read (write t) = .ok t := by
  obtain ⟨n, hn, -⟩ := id h
  have hof : Timestamp.ofParts? t.clock n = some t := Timestamp.ofParts?_eq_some_iff.2 ⟨rfl, hn⟩
  unfold read
  rw [trim_write, uppercase_write, parts_write, if_pos h, Option.mem_def.1 hn]
  simp only [Option.map_some, hof]

theorem read_write_of_not (h : ¬ t.WholeMinutes) :
    read (write t) = .error (.malformedTimestamp (write t)) := by
  unfold read
  rw [trim_write, uppercase_write, parts_write, if_neg h]

/-- No text tells of a clock that is not whole minutes ahead. -/
theorem wholeMinutes_of_read (h : read s = .ok t) : t.WholeMinutes := by
  obtain ⟨w, -, -, -, hoffset⟩ := read_eq_ok_iff.1 h
  exact ⟨_, hoffset, Int.dvd_mul_left _ _⟩

/-- Timestamps read back just when their offset is known and whole minutes, as it is of every
timestamp that was read. -/
theorem write_reads_back (t : Timestamp) :
    ((∃ front, write t = front ++ "Z") ↔ t.offset = some 0) ∧
    read (write t) =
      (if t.WholeMinutes then .ok t else .error (.malformedTimestamp (write t))) ∧
    ∀ s, read s = .ok t → read (write t) = .ok t := by
  refine ⟨write_eq_append_iff, ?_, fun s h => read_write (wholeMinutes_of_read h)⟩
  split
  · exact read_write ‹_›
  · exact read_write_of_not ‹_›

end Rfc3339

end CloudEvents
