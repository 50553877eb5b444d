import CloudEvents.Proofs.Text.Uppercase
import CloudEvents.Proofs.Time.Written

/-! The spellings of timestamps that are read, and what each of them is read as. -/
namespace CloudEvents.Rfc3339

open Text

variable {n : Nat} {k : Int} {c : Char} {cs ds rest before after : List Char} {t : DateTime}
  {s : String}

theorem fraction_fractionText (hd : ∀ c ∈ ds, c.isDigit) (hr : EndsFraction rest) :
    fraction (fractionText ds ++ rest) = some (ofDecimal (fitRight 6 ds), rest) := by
  by_cases hnil : ds = []
  · subst hnil
    rw [fractionText, if_pos rfl, List.nil_append]
    unfold fraction
    split
    · exact absurd rfl (hr '.' rfl).1
    · rfl
  · obtain ⟨htake, hdrop⟩ := span_isDigit hd hr
    rw [fractionText, if_neg hnil, List.cons_append, fraction, htake, hdrop, if_neg hnil]

theorem exists_of_fraction (h : fraction cs = some (n, rest)) : ∃ ds : List Char,
    (∀ c ∈ ds, c.isDigit) ∧ cs = fractionText ds ++ rest ∧ n = ofDecimal (fitRight 6 ds) := by
  unfold fraction at h
  split at h
  · rename_i r
    split at h
    · cases h
    · rename_i hsome
      cases h
      refine ⟨r.takeWhile Char.isDigit, fun c hc => List.mem_takeWhile_imp hc, ?_, rfl⟩
      rw [fractionText, if_neg hsome, List.cons_append, List.takeWhile_append_dropWhile]
  · cases h
    exact ⟨[], by simp, rfl, rfl⟩

theorem dateTime_text {w : ClockSpelling} (h : w.Fits) (hr : EndsFraction rest) :
    dateTime (w.date ++ 'T' :: w.time ++ rest) = some (w.clock, rest) := by
  simp only [dateTime, ClockSpelling.date, ClockSpelling.time, List.append_assoc, List.cons_append,
    number_decimal (by decide : 0 < 4) h.year, number_decimal (by decide : 0 < 2) h.month,
    number_decimal (by decide : 0 < 2) h.day, number_decimal (by decide : 0 < 2) h.hour,
    number_decimal (by decide : 0 < 2) h.minute, number_decimal (by decide : 0 < 2) h.second,
    mark_cons, fraction_fractionText h.fraction hr, Option.bind_eq_bind, Option.bind_some,
    ClockSpelling.clock]

theorem exists_of_dateTime (h : dateTime cs = some (t, rest)) : ∃ w : ClockSpelling,
    w.Fits ∧ w.clock = t ∧ cs = w.date ++ 'T' :: w.time ++ rest := by
  simp only [dateTime, Option.bind_eq_bind, Option.bind_eq_some_iff, Prod.exists, mark_eq_some_iff,
    number_eq_some_iff (by decide : 0 < 4), number_eq_some_iff (by decide : 0 < 2)] at h
  obtain ⟨year, _, ⟨hyear, rfl⟩, _, rfl, month, _, ⟨hmonth, rfl⟩, _, rfl, day, _, ⟨hday, rfl⟩,
    _, rfl, hour, _, ⟨hhour, rfl⟩, _, rfl, minute, _, ⟨hminute, rfl⟩, _, rfl, second, _,
    ⟨hsecond, rfl⟩, micro, _, hfraction, heq⟩ := h
  cases heq
  obtain ⟨ds, hdigits, rfl, rfl⟩ := exists_of_fraction hfraction
  refine ⟨⟨year, month, day, hour, minute, second, ds⟩,
    ⟨hyear, hmonth, hday, hhour, hminute, hsecond, hdigits⟩, rfl, ?_⟩
  simp only [ClockSpelling.date, ClockSpelling.time, List.append_assoc, List.cons_append]

theorem hoursMinutes_eq_some_iff : hoursMinutes cs = some k ↔ ∃ hours minutes,
    (hours < 100 ∧ minutes < 100) ∧ cs = decimal 2 hours ++ ':' :: decimal 2 minutes ∧
      k = span hours minutes := by
  simp only [hoursMinutes, Option.bind_eq_bind, Option.bind_eq_some_iff, Prod.exists,
    mark_eq_some_iff, number_eq_some_iff (by decide : 0 < 2)]
  constructor
  · rintro ⟨hours, _, ⟨hhours, rfl⟩, _, rfl, minutes, rest, ⟨hminutes, rfl⟩, h⟩
    split at h
    · rename_i hnil
      subst hnil
      cases h
      exact ⟨hours, minutes, ⟨hhours, hminutes⟩, by rw [List.append_nil], rfl⟩
    · cases h
  · rintro ⟨hours, minutes, ⟨hhours, hminutes⟩, rfl, rfl⟩
    exact ⟨hours, _, ⟨hhours, rfl⟩, _, rfl, minutes, [],
      ⟨hminutes, (List.append_nil _).symm⟩, if_pos rfl⟩

theorem span_eq (hours minutes : Nat) :
    span hours minutes = (hours * 60 + minutes : Nat) * minuteLength := by
  unfold span minuteLength
  omega

theorem offset_text {z : Zone} (h : z.Fits) :
    offset z.upper.text = some (z.ahead * minuteLength) := by
  cases z with
  | utc small => rfl
  | numeric west hours minutes =>
    have hread : hoursMinutes (decimal 2 hours ++ ':' :: decimal 2 minutes) =
        some (span hours minutes) :=
      hoursMinutes_eq_some_iff.2 ⟨hours, minutes, h, rfl, rfl⟩
    cases west
    · change hoursMinutes (decimal 2 hours ++ ':' :: decimal 2 minutes) = _
      rw [hread, span_eq]
      rfl
    · change (hoursMinutes (decimal 2 hours ++ ':' :: decimal 2 minutes)).map _ = _
      rw [hread, Option.map_some, span_eq, ← Int.neg_mul]
      rfl

theorem exists_of_offset (h : offset cs = some k) : ∃ z : Zone,
    z.Fits ∧ z.upper.text = cs ∧ k = z.ahead * minuteLength := by
  unfold offset at h
  split at h
  · cases h
    exact ⟨.utc false, trivial, rfl, rfl⟩
  · obtain ⟨hours, minutes, hfits, rfl, rfl⟩ := hoursMinutes_eq_some_iff.1 h
    exact ⟨.numeric false hours minutes, hfits, rfl, span_eq hours minutes⟩
  · obtain ⟨_, hread, rfl⟩ := Option.map_eq_some_iff.1 h
    obtain ⟨hours, minutes, hfits, rfl, rfl⟩ := hoursMinutes_eq_some_iff.1 hread
    refine ⟨.numeric true hours minutes, hfits, rfl, ?_⟩
    rw [span_eq, ← Int.neg_mul]
    rfl
  · cases h

theorem parts_text {w : Spelling} (h : w.Fits) :
    parts w.upper.text = some (w.clock, w.zone.ahead * minuteLength) := by
  have hclock : dateTime w.upper.text = some (w.clock, w.zone.upper.text) :=
    dateTime_text h.1 w.zone.upper.endsFraction_text
  simp only [parts, hclock, offset_text h.2, Option.bind_eq_bind, Option.bind_some]

theorem exists_of_parts (h : parts cs = some (t, k)) : ∃ w : Spelling,
    w.Fits ∧ w.upper.text = cs ∧ w.clock = t ∧ k = w.zone.ahead * minuteLength := by
  simp only [parts, Option.bind_eq_bind, Option.bind_eq_some_iff, Prod.exists] at h
  obtain ⟨_, _, hclock, _, hzone, heq⟩ := h
  cases heq
  obtain ⟨w, hw, rfl, rfl⟩ := exists_of_dateTime hclock
  obtain ⟨z, hz, rfl, rfl⟩ := exists_of_offset hzone
  exact ⟨⟨w, false, z⟩, ⟨hw, hz⟩, rfl, rfl, rfl⟩

/-- The characters of timestamps that are no letters. -/
def plainChars : List Char := digits ++ ['-', ':', '.', '+']

/-- The characters of timestamps in capital letters. -/
def capitalChars : List Char := 'T' :: 'Z' :: plainChars

/-- The characters of timestamps. -/
def stampChars : List Char := 't' :: 'z' :: capitalChars

theorem plainChars_subset : plainChars ⊆ capitalChars := fun _ hc =>
  List.mem_cons_of_mem _ (List.mem_cons_of_mem _ hc)

theorem capitalChars_subset : capitalChars ⊆ stampChars := fun _ hc =>
  List.mem_cons_of_mem _ (List.mem_cons_of_mem _ hc)

theorem subset_stampChars (h : cs ⊆ plainChars) : cs ⊆ stampChars := fun _ hc =>
  capitalChars_subset (plainChars_subset (h hc))

theorem isAlpha_of_mem_plainChars (h : c ∈ plainChars) : c.isAlpha = false := by
  have hall : plainChars.all fun c => !c.isAlpha := by decide
  simpa using List.all_eq_true.1 hall c h

theorem upperChar_of_mem_capitalChars (h : c ∈ capitalChars) :
    (c.toNat < 128 ∧ c ∉ foreignUppers) ∧ upperChar c = [c] := by
  have hall : capitalChars.all fun c =>
      (decide (c.toNat < 128) && !foreignUppers.contains c) && upperChar c == [c] := by
    decide +kernel
  simpa using List.all_eq_true.1 hall c h

theorem isBlank_of_mem_stampChars (h : c ∈ stampChars) : c.toNat < 128 ∧ isBlank c = false := by
  have hall : stampChars.all fun c => decide (c.toNat < 128) && !isBlank c := by decide +kernel
  simpa using List.all_eq_true.1 hall c h

theorem marks_mem_plainChars :
    '-' ∈ plainChars ∧ ':' ∈ plainChars ∧ '.' ∈ plainChars ∧ '+' ∈ plainChars := by decide

theorem digits_subset_plainChars (hd : ∀ c ∈ ds, c.isDigit) : ds ⊆ plainChars := fun c hc =>
  List.mem_append_left _ (mem_digits_iff.2 (hd c hc))

theorem decimal_subset (width n : Nat) : decimal width n ⊆ plainChars :=
  digits_subset_plainChars fun _ hc => isDigit_of_mem_decimal hc

theorem fractionText_subset (hd : ∀ c ∈ ds, c.isDigit) : fractionText ds ⊆ plainChars := by
  rw [fractionText]
  split
  · exact List.nil_subset _
  · exact List.cons_subset.2 ⟨marks_mem_plainChars.2.2.1, digits_subset_plainChars hd⟩

theorem date_subset (w : ClockSpelling) : w.date ⊆ plainChars := by
  simp only [ClockSpelling.date, List.append_subset, List.cons_subset, decimal_subset,
    marks_mem_plainChars, and_self]

theorem time_subset {w : ClockSpelling} (h : ∀ c ∈ w.fraction, c.isDigit) :
    w.time ⊆ plainChars := by
  simp only [ClockSpelling.time, List.append_subset, List.cons_subset, decimal_subset,
    fractionText_subset h, marks_mem_plainChars, and_self]

theorem numeric_subset (west : Bool) (hours minutes : Nat) :
    (Zone.numeric west hours minutes).text ⊆ plainChars := by
  have hsign : (if west then '-' else '+') ∈ plainChars := by
    cases west <;> simp only [marks_mem_plainChars, if_true, if_false, Bool.false_eq_true]
  simp only [Zone.text, List.append_subset, List.cons_subset, decimal_subset, hsign,
    marks_mem_plainChars, and_self]

theorem map_toUpper_plain (h : ds ⊆ plainChars) : cs.map Char.toUpper = ds ↔ cs = ds :=
  map_toUpper_eq_iff fun _ hd => isAlpha_of_mem_plainChars (h hd)

namespace Zone

variable {z : Zone}

theorem map_toUpper_text (z : Zone) : z.text.map Char.toUpper = z.upper.text := by
  cases z with
  | utc small => cases small <;> decide
  | numeric west hours minutes =>
    exact (map_toUpper_plain (numeric_subset west hours minutes)).2 rfl

theorem exists_of_map_toUpper (hz : z.Fits) (h : cs.map Char.toUpper = z.upper.text) :
    ∃ y : Zone, y.Fits ∧ y.text = cs ∧ y.ahead = z.ahead := by
  cases z with
  | utc small =>
    obtain ⟨c, rfl, hc⟩ := List.map_eq_singleton_iff.1 h
    rcases eq_or_eq_toLower_of_toUpper hc with rfl | rfl
    · exact ⟨.utc false, trivial, rfl, rfl⟩
    · exact ⟨.utc true, trivial, rfl, rfl⟩
  | numeric west hours minutes =>
    exact ⟨.numeric west hours minutes, hz,
      ((map_toUpper_plain (numeric_subset west hours minutes)).1 h).symm, rfl⟩

theorem text_subset (z : Zone) : z.text ⊆ stampChars := by
  cases z with
  | utc small => cases small <;> decide
  | numeric west hours minutes =>
    exact subset_stampChars (numeric_subset west hours minutes)

end Zone

namespace Spelling

variable {w : Spelling}

theorem map_toUpper_text (h : w.Fits) : w.text.map Char.toUpper = w.upper.text := by
  have hdate : w.date.map Char.toUpper = w.date := (map_toUpper_plain (date_subset _)).2 rfl
  have htime : w.time.map Char.toUpper = w.time :=
    (map_toUpper_plain (time_subset h.1.fraction)).2 rfl
  have hletter : (if w.small then 't' else 'T').toUpper = 'T' := by cases w.small <;> rfl
  simp only [text, List.map_append, List.map_cons, hdate, htime, hletter, Zone.map_toUpper_text]
  rfl

theorem exists_of_map_toUpper (h : w.Fits) (hcs : cs.map Char.toUpper = w.upper.text) :
    ∃ v : Spelling, v.Fits ∧ v.text = cs ∧ v.clock = w.clock ∧ v.zone.ahead = w.zone.ahead := by
  simp only [text, List.append_assoc, List.cons_append] at hcs
  -- only the two letters may have been small, and all else is as it was
  obtain ⟨date, _, rfl, hdate, hcs⟩ := List.map_eq_append_iff.1 hcs
  obtain ⟨letter, _, rfl, hletter, hcs⟩ := List.map_eq_cons_iff.1 hcs
  obtain ⟨time, zone, rfl, htime, hzone⟩ := List.map_eq_append_iff.1 hcs
  obtain rfl := (map_toUpper_plain (date_subset _)).1 hdate
  obtain rfl := (map_toUpper_plain (time_subset h.1.fraction)).1 htime
  obtain ⟨z, hz, rfl, hahead⟩ := Zone.exists_of_map_toUpper h.2 hzone
  have hcase : ∃ small : Bool, letter = if small then 't' else 'T' := by
    rcases eq_or_eq_toLower_of_toUpper hletter with rfl | rfl
    · exact ⟨false, rfl⟩
    · exact ⟨true, rfl⟩
  obtain ⟨small, rfl⟩ := hcase
  refine ⟨⟨w.toClockSpelling, small, z⟩, ⟨h.1, hz⟩, ?_, rfl, hahead⟩
  simp only [text, List.append_assoc, List.cons_append]
  rfl

theorem text_subset (h : w.Fits) : w.text ⊆ stampChars := by
  have hdate : w.date ⊆ stampChars := subset_stampChars (date_subset _)
  have htime : w.time ⊆ stampChars := subset_stampChars (time_subset h.1.fraction)
  have hletter : (if w.small then 't' else 'T') ∈ stampChars := by cases w.small <;> decide
  simp only [text, List.append_subset, List.cons_subset, hdate, hletter, htime, w.zone.text_subset,
    and_self]

end Spelling

theorem upper_text_subset {w : Spelling} (h : w.Fits) : w.upper.text ⊆ capitalChars := by
  have hraise : stampChars.all fun c => capitalChars.contains c.toUpper := by decide +kernel
  intro d hd
  rw [← w.map_toUpper_text h] at hd
  obtain ⟨c, hc, rfl⟩ := List.mem_map.1 hd
  simpa using List.all_eq_true.1 hraise c (w.text_subset h hc)

theorem parts_uppercase_iff : parts (uppercase s).toList = some (t, k) ↔ ∃ w : Spelling,
    w.Fits ∧ s.toList = w.text ∧ w.clock = t ∧ k = w.zone.ahead * minuteLength := by
  rw [toList_uppercase]
  constructor
  · intro h
    obtain ⟨w, hw, hupper, rfl, rfl⟩ := exists_of_parts h
    -- no letter outside of ASCII was raised, since none of what came of them is taken
    have hraise : s.toList.map Char.toUpper = w.upper.text := by
      rw [hupper]
      refine (flatMap_upperChar_of_ascii fun c hc => ?_).symm
      rw [← hupper] at hc
      exact (upperChar_of_mem_capitalChars (upper_text_subset hw hc)).1
    obtain ⟨v, hv, htext, hclock, hahead⟩ := w.exists_of_map_toUpper hw hraise
    exact ⟨v, hv, htext.symm, hclock, by rw [hahead]⟩
  · rintro ⟨w, hw, htext, rfl, rfl⟩
    have hupper : s.toList.flatMap upperChar = w.upper.text := by
      rw [htext, ← w.map_toUpper_text hw, List.map_eq_flatMap]
      exact List.flatMap_congr fun c hc =>
        upperChar_ascii (isBlank_of_mem_stampChars (w.text_subset hw hc)).1
    rw [hupper, parts_text hw]

/-- Which texts are read, and as what. -/
theorem read_eq_ok_iff {u : Timestamp} : read s = .ok u ↔ ∃ w : Spelling,
    w.Fits ∧ (trim s).toList = w.text ∧ u.clock = w.clock ∧
      u.offset = some (w.zone.ahead * minuteLength) := by
  unfold read
  constructor
  · intro h
    split at h
    · cases h
    · rename_i hparts
      split at h
      · cases h
      · rename_i hof
        cases h
        obtain ⟨w, hw, htext, rfl, rfl⟩ := parts_uppercase_iff.1 hparts
        obtain ⟨hclock, hoffset⟩ := Timestamp.ofParts?_eq_some_iff.1 hof
        exact ⟨w, hw, htext, hclock, hoffset⟩
  · rintro ⟨w, hw, htext, hclock, hoffset⟩
    have hparts := parts_uppercase_iff.2 ⟨w, hw, htext, rfl, rfl⟩
    have hof := Timestamp.ofParts?_eq_some_iff.2 ⟨hclock, hoffset⟩
    simp only [hparts, hof]

/-- Any other text is named as it was given. -/
theorem eq_of_read_error {f : Fault} (h : read s = .error f) :
    f = .malformedTimestamp s ∨ f = .impossibleTimestamp s := by
  unfold read at h
  split at h
  · cases h
    exact Or.inl rfl
  · split at h
    · cases h
      exact Or.inr rfl
    · cases h

theorem kind_of_read {f : Fault} (h : read s = .error f) : f.kind = .malformedTimestamp := by
  rcases eq_of_read_error h with rfl | rfl <;> rfl

/-- Holds of the spellings of moments. Year 0 has none. -/
def Spelling.Readable (w : Spelling) : Prop :=
  1 ≤ w.year ∧ w.toClockSpelling.Proper ∧ w.zone.InDay

instance (w : Spelling) : Decidable w.Readable := by
  unfold Spelling.Readable
  infer_instance

theorem Spelling.Readable.fits {w : Spelling} (h : w.Readable) : w.Fits := ⟨h.2.1.fits, h.2.2.fits⟩

theorem exists_timestamp_iff {w : Spelling} (h : w.Fits) :
    (∃ u : Timestamp, u.clock = w.clock ∧ u.offset = some (w.zone.ahead * minuteLength)) ↔
      w.Readable := by
  rw [Spelling.Readable, ← and_assoc, ← ClockSpelling.valid_clock_iff h.1.fraction,
    ← Zone.offset_lt_iff h.2]
  constructor
  · rintro ⟨u, hclock, hoffset⟩
    rw [← hclock]
    exact ⟨u.valid, u.offset_lt _ hoffset⟩
  · intro hvalid
    have hof : Timestamp.ofParts? w.clock (w.zone.ahead * minuteLength) ≠ none := fun hnone =>
      Timestamp.ofParts?_eq_none_iff.1 hnone hvalid
    obtain ⟨u, hu⟩ := Option.ne_none_iff_exists'.1 hof
    exact ⟨u, Timestamp.ofParts?_eq_some_iff.1 hu⟩

theorem exists_read_iff :
    (∃ u, read s = .ok u) ↔ ∃ w : Spelling, (trim s).toList = w.text ∧ w.Readable := by
  constructor
  · rintro ⟨u, hread⟩
    obtain ⟨w, hw, htext, hclock, hoffset⟩ := read_eq_ok_iff.1 hread
    exact ⟨w, htext, (exists_timestamp_iff hw).1 ⟨u, hclock, hoffset⟩⟩
  · rintro ⟨w, htext, hw⟩
    obtain ⟨u, hclock, hoffset⟩ := (exists_timestamp_iff hw.fits).2 hw
    exact ⟨u, read_eq_ok_iff.2 ⟨w, hw.fits, htext, hclock, hoffset⟩⟩

theorem standard_iff_of_readable {w : Spelling} (hw : w.Readable) (h : s.toList = w.text) :
    Standard s ↔ w.zone.minutes < 60 := by
  rw [standard_iff hw.fits h, Spelling.Standard, ← Zone.proper_iff hw.2.2]
  exact and_iff_right hw.2.1

/-- The texts that are read are those of RFC 3339, and beside them those whose offset has more than
an hour of minutes. Of every other text a fault tells. -/
theorem read_accepts (s : String) :
    ((∃ u, read s = .ok u) ↔ ∃ w : Spelling, (trim s).toList = w.text ∧ w.Readable) ∧
    (∀ w : Spelling, (trim s).toList = w.text → w.Readable →
      (Standard (trim s) ↔ w.zone.minutes < 60)) ∧
    ∀ f, read s = .error f → f.kind = .malformedTimestamp ∧
      (f = .malformedTimestamp s ∨ f = .impossibleTimestamp s) := by
  refine ⟨exists_read_iff, fun w htext hw => standard_iff_of_readable hw htext, ?_⟩
  intro f hf
  have hnamed := eq_of_read_error hf
  refine ⟨?_, hnamed⟩
  rcases hnamed with rfl | rfl <;> rfl

/-- Sixty minutes beside five hours are read as a sixth hour. -/
theorem standard_otherwise_sixty : (∃ u, read "2024-05-01T12:30:00+05:60" = .ok u) ∧
    ¬ Standard (trim "2024-05-01T12:30:00+05:60") := by
  let w : Spelling := ⟨⟨2024, 5, 1, 12, 30, 0, []⟩, false, .numeric false 5 60⟩
  have htext : (trim "2024-05-01T12:30:00+05:60").toList = w.text := by decide +kernel
  have hw : w.Readable := by decide +kernel
  refine ⟨exists_read_iff.2 ⟨w, htext, hw⟩, ?_⟩
  rw [standard_iff_of_readable hw htext]
  decide

/-- Every timestamp of RFC 3339 from year 1 on is read as the numbers that are written, with blanks
around it and in letters of either case. Digits behind those of microseconds are cut off. -/
theorem read_standard {w : Spelling} (h : w.Standard) (hyear : 1 ≤ w.year)
    (hblank : ∀ c ∈ before ++ after, isBlank c) :
    ∃ u, read (String.ofList (before ++ w.text ++ after)) = .ok u ∧
      u.clock = ⟨w.year, w.month, w.day, w.hour, w.minute, w.second,
        ofDecimal (fitRight 6 w.fraction)⟩ ∧
      u.clock.micro = ofDecimal w.fraction * 10 ^ 6 / 10 ^ w.fraction.length ∧
      u.offset = some (w.zone.ahead * minuteLength) := by
  have htext : (trim (String.ofList (before ++ w.text ++ after))).toList = w.text := by
    rw [toList_trim, String.toList_ofList]
    exact trimChars_around hblank fun c hc =>
      (isBlank_of_mem_stampChars (w.text_subset h.fits hc)).2
  have hreadable : w.Readable := ⟨hyear, h.1, h.2.inDay⟩
  obtain ⟨u, hclock, hoffset⟩ := (exists_timestamp_iff h.fits).2 hreadable
  refine ⟨u, read_eq_ok_iff.2 ⟨w, h.fits, htext, hclock, hoffset⟩, hclock, ?_, hoffset⟩
  rw [hclock, ← ofDecimal_fitRight h.fits.1.fraction 6]
  rfl

theorem read_standard_leap :
    ∃ u, read "\t 2024-02-29t23:59:59.999999999-00:30\n" = .ok u ∧
      u.clock = ⟨2024, 2, 29, 23, 59, 59, 999999⟩ ∧ u.offset = some (-30 * minuteLength) := by
  let w : Spelling :=
    ⟨⟨2024, 2, 29, 23, 59, 59, List.replicate 9 '9'⟩, true, .numeric true 0 30⟩
  have htext : "\t 2024-02-29t23:59:59.999999999-00:30\n".toList =
      ['\t', ' '] ++ w.text ++ ['\n'] := by decide +kernel
  have hstandard : w.Standard := by decide +kernel
  have hblank : (['\t', ' '] ++ ['\n']).all isBlank := by decide +kernel
  obtain ⟨u, hread, hclock, -, hoffset⟩ :=
    read_standard hstandard (by decide) (List.all_eq_true.1 hblank)
  rw [← htext, String.ofList_toList] at hread
  exact ⟨u, hread, hclock, hoffset⟩

end CloudEvents.Rfc3339
