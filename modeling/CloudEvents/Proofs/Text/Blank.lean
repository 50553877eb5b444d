import CloudEvents.Text.CodePoints
import CloudEvents.Text.Search
import Mathlib.Data.List.TakeWhile

/-! Blanks around a text, and around the pieces that a text is cut into. -/
namespace CloudEvents.Text

variable {c sep : Char} {cs before after : List Char} {s : String}

theorem dropWhile_blank (hb : ∀ c ∈ before, isBlank c) (h : ∀ c ∈ cs.head?, isBlank c = false) :
    (before ++ cs).dropWhile isBlank = cs := by
  rw [List.dropWhile_append_of_pos hb]
  cases cs with
  | nil => rfl
  | cons c r =>
    have hc : isBlank c = false := h c rfl
    rw [List.dropWhile_cons_of_neg (by simp [hc])]

/-- Holds of texts that neither start nor end with a blank. -/
def Bare (cs : List Char) : Prop :=
  (∀ c ∈ cs.head?, isBlank c = false) ∧ ∀ c ∈ cs.getLast?, isBlank c = false

theorem bare_of_forall (h : ∀ c ∈ cs, isBlank c = false) : Bare cs :=
  ⟨fun c hc => h c (List.mem_of_head? hc), fun c hc => h c (List.mem_of_getLast? hc)⟩

/-- Blanks around a bare text are all that is removed. -/
theorem trimChars_of_bare (hb : ∀ c ∈ before ++ after, isBlank c) (h : Bare cs) :
    trimChars (before ++ cs ++ after) = cs := by
  have hbefore : ∀ c ∈ before, isBlank c := fun c hc => hb c (List.mem_append_left _ hc)
  have hback : ∀ c ∈ after.reverse, isBlank c := fun c hc =>
    hb c (List.mem_append_right _ (List.mem_reverse.1 hc))
  cases cs with
  | nil =>
    have hall : (before ++ [] ++ after).dropWhile isBlank = [] := by
      rw [List.append_nil, List.dropWhile_eq_nil_iff]
      exact hb
    rw [trimChars, hall]
    rfl
  | cons c r =>
    have hhead : ∀ d ∈ ((c :: r) ++ after).head?, isBlank d = false := h.1
    have hlast : ∀ d ∈ ((c :: r).reverse).head?, isBlank d = false := by
      rw [List.head?_reverse]
      exact h.2
    rw [trimChars, List.append_assoc, dropWhile_blank hbefore hhead, List.reverse_append,
      dropWhile_blank hback hlast, List.reverse_reverse]

/-- Every text is a bare one with blanks around it. -/
theorem exists_bare (cs : List Char) : ∃ before after,
    (∀ c ∈ before ++ after, isBlank c) ∧ Bare (trimChars cs) ∧
      cs = before ++ trimChars cs ++ after := by
  have hfront := List.takeWhile_append_dropWhile (p := isBlank) (l := cs)
  generalize hxs : cs.dropWhile isBlank = xs at hfront
  have hback := List.takeWhile_append_dropWhile (p := isBlank) (l := xs.reverse)
  have hcore : trimChars cs = (xs.reverse.dropWhile isBlank).reverse := by rw [trimChars, hxs]
  have hsplit : xs = trimChars cs ++ (xs.reverse.takeWhile isBlank).reverse := by
    rw [hcore, ← List.reverse_append, hback, List.reverse_reverse]
  refine ⟨cs.takeWhile isBlank, (xs.reverse.takeWhile isBlank).reverse, ?_, ⟨?_, ?_⟩, ?_⟩
  · intro c hc
    rcases List.mem_append.1 hc with hc | hc
    · exact List.mem_takeWhile_imp hc
    · exact List.mem_takeWhile_imp (List.mem_reverse.1 hc)
  · intro c hc
    have hhead : c ∈ xs.head? := by
      rw [hsplit, List.head?_append, Option.mem_def.1 hc]
      rfl
    have hnot := List.head?_dropWhile_not isBlank cs
    rw [hxs, Option.mem_def.1 hhead] at hnot
    exact hnot
  · intro c hc
    rw [hcore, List.getLast?_reverse] at hc
    have hnot := List.head?_dropWhile_not isBlank xs.reverse
    rw [Option.mem_def.1 hc] at hnot
    exact hnot
  · rw [List.append_assoc, ← hsplit, hfront]

theorem bare_trimChars (cs : List Char) : Bare (trimChars cs) := by
  obtain ⟨-, -, -, hbare, -⟩ := exists_bare cs
  exact hbare

theorem trimChars_of_bare_self (h : Bare cs) : trimChars cs = cs := by
  have hcs : ([] : List Char) ++ cs ++ [] = cs := List.append_nil cs
  have htrim : trimChars ([] ++ cs ++ []) = cs := trimChars_of_bare (by simp) h
  rwa [hcs] at htrim

theorem trimChars_around (hb : ∀ c ∈ before ++ after, isBlank c)
    (h : ∀ c ∈ cs, isBlank c = false) : trimChars (before ++ cs ++ after) = cs :=
  trimChars_of_bare hb (bare_of_forall h)

theorem trim_eq_self (h : ∀ c ∈ s.toList, isBlank c = false) : trim s = s := by
  rw [← String.toList_inj, toList_trim, trimChars_of_bare_self (bare_of_forall h)]

@[simp] theorem trim_trim (s : String) : trim (trim s) = trim s := by
  rw [← String.toList_inj, toList_trim, toList_trim, trimChars_of_bare_self (bare_trimChars _)]

theorem trimChars_eq_nil_iff : trimChars cs = [] ↔ ∀ c ∈ cs, isBlank c := by
  constructor
  · intro h
    obtain ⟨before, after, hb, -, hcs⟩ := exists_bare cs
    rw [h, List.append_nil] at hcs
    rwa [hcs]
  · intro h
    have htrim : trimChars (cs ++ [] ++ []) = [] :=
      trimChars_of_bare (by simpa using h) (bare_of_forall (by simp))
    simpa using htrim

theorem trim_eq_empty_iff : trim s = "" ↔ allBlank s := by
  rw [← String.toList_inj, toList_trim, allBlank, List.all_eq_true]
  exact trimChars_eq_nil_iff

/-- Blanks at the ends make no difference. -/
theorem trimChars_append (hb : ∀ c ∈ before ++ after, isBlank c) (cs : List Char) :
    trimChars (before ++ cs ++ after) = trimChars cs := by
  obtain ⟨front, back, hblank, hbare, hcs⟩ := exists_bare cs
  have hall : ∀ c ∈ (before ++ front) ++ (back ++ after), isBlank c := by
    intro c hc
    simp only [List.mem_append] at hc hb hblank
    rcases hc with (hc | hc) | (hc | hc)
    · exact hb c (Or.inl hc)
    · exact hblank c (Or.inl hc)
    · exact hblank c (Or.inr hc)
    · exact hb c (Or.inr hc)
  have hsame : before ++ cs ++ after = (before ++ front) ++ trimChars cs ++ (back ++ after) := by
    have houter := congrArg (fun l => before ++ l ++ after) hcs
    simpa only [List.append_assoc] using houter
  rw [hsame, trimChars_of_bare hall hbare]

theorem exists_splitAt (sep : Char) (cs : List Char) : ∃ p ps, splitAt sep cs = p :: ps := by
  have hne : splitAt sep cs ≠ [] := by
    rw [splitAt_eq_splitOn]
    exact List.splitOn_ne_nil sep cs
  exact List.exists_cons_of_ne_nil hne

theorem splitAt_cons_of_ne (hc : c ≠ sep) {p : List Char} {ps : List (List Char)}
    (h : splitAt sep cs = p :: ps) : splitAt sep (c :: cs) = (c :: p) :: ps := by
  rw [splitAt, if_neg hc, h]

/-- What stands in front of a text without a separator in it belongs to the first piece. -/
theorem splitAt_append_left (hb : sep ∉ before) {p : List Char} {ps : List (List Char)}
    (h : splitAt sep cs = p :: ps) : splitAt sep (before ++ cs) = (before ++ p) :: ps := by
  induction before with
  | nil => exact h
  | cons c r ih =>
    rw [List.mem_cons, not_or] at hb
    exact splitAt_cons_of_ne (Ne.symm hb.1) (ih hb.2)

/-- What stands behind a text without a separator in it belongs to the last piece. -/
theorem splitAt_append_right (ha : sep ∉ after) (cs : List Char) : ∃ ps p,
    splitAt sep cs = ps ++ [p] ∧ splitAt sep (cs ++ after) = ps ++ [p ++ after] := by
  induction cs with
  | nil =>
    have hafter : splitAt sep (after ++ []) = [after ++ []] := splitAt_append_left ha rfl
    rw [List.append_nil] at hafter
    exact ⟨[], [], rfl, by simpa using hafter⟩
  | cons c r ih =>
    obtain ⟨ps, p, hr, hra⟩ := ih
    by_cases hc : c = sep
    · refine ⟨[] :: ps, p, ?_, ?_⟩
      · rw [splitAt, if_pos hc, hr, List.cons_append]
      · rw [List.cons_append, splitAt, if_pos hc, hra, List.cons_append]
    · cases ps with
      | nil =>
        exact ⟨[], c :: p, splitAt_cons_of_ne hc hr, splitAt_cons_of_ne hc hra⟩
      | cons q qs =>
        exact ⟨(c :: q) :: qs, p, splitAt_cons_of_ne hc hr, splitAt_cons_of_ne hc hra⟩

/-- A text may be trimmed before it is cut into pieces that are trimmed. -/
theorem map_trimChars_splitAt (hsep : isBlank sep = false) (cs : List Char) :
    (splitAt sep (trimChars cs)).map trimChars = (splitAt sep cs).map trimChars := by
  obtain ⟨before, after, hblank, -, hcs⟩ := exists_bare cs
  have hnot : ∀ l : List Char, (∀ c ∈ l, isBlank c) → sep ∉ l := by
    intro l hl hm
    rw [hl sep hm] at hsep
    cases hsep
  have hbefore : ∀ c ∈ before ++ [], isBlank c := fun c hc =>
    hblank c (List.mem_append_left _ (by simpa using hc))
  have hafter : ∀ c ∈ [] ++ after, isBlank c := fun c hc => hblank c (List.mem_append_right _ hc)
  obtain ⟨p, ps, hfirst⟩ := exists_splitAt sep (trimChars cs)
  have hleft := splitAt_append_left (hnot before (by simpa using hbefore)) hfirst
  obtain ⟨qs, q, hq, hqa⟩ := splitAt_append_right (hnot after hafter) (before ++ trimChars cs)
  have hfront := trimChars_append hbefore p
  have hback := trimChars_append hafter q
  rw [List.append_nil] at hfront
  calc (splitAt sep (trimChars cs)).map trimChars
      = (splitAt sep (before ++ trimChars cs)).map trimChars := by
        rw [hfirst, hleft, List.map_cons, List.map_cons, hfront]
    _ = (splitAt sep (before ++ trimChars cs ++ after)).map trimChars := by
        rw [hq, hqa, List.map_append, List.map_append, List.map_singleton, List.map_singleton,
          ← hback, List.nil_append]
    _ = (splitAt sep cs).map trimChars := by rw [← hcs]

end CloudEvents.Text
