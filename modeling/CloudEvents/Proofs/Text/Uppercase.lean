import CloudEvents.Proofs.Text.Blank
import CloudEvents.Proofs.Text.Casing

/-! Uppercase texts: raising twice is raising once, and no blank is lost or made. -/
namespace CloudEvents.Text

variable {c d : Char} {cs ds : List Char} {s : String}

/-- The letters of ASCII that are uppercase forms of letters outside of it. -/
def foreignUppers : List Char := ['F', 'I', 'S']

theorem upperRuns_stay : Stays upperRuns foreignUppers := by
  unfold Stays
  decide +kernel

theorem upperExpansions_stay : upperExpansions.all fun e => e.2.any fun n =>
    Nat.ble 128 (Char.ofNat n).toNat || foreignUppers.contains (Char.ofNat n) := by
  decide +kernel

/-- The numbers of the characters that have an uppercase form. -/
def raised : List Nat := upperExpansions.map (·.1) ++ upperRuns.flatMap Run.codes

/-- The numbers of the characters that uppercase forms consist of. -/
def raisings : List Nat := (upperExpansions.flatMap fun e => e.2) ++ upperRuns.flatMap Run.landings

/-- No uppercase letter has another uppercase form. -/
theorem raisings_apart : bitsAt raisings &&& bitsAt raised = 0 := by
  decide +kernel

theorem upperExpansions_land : upperExpansions.all fun e => e.2.all fun n =>
    (Char.ofNat n).toNat == n := by
  decide +kernel

theorem upperChar_of_notMem (h : c.toNat ∉ raised) : upperChar c = [c] := by
  rw [raised, List.mem_append, not_or] at h
  have hexpansion : upperExpansions.find? (·.1 == c.toNat) = none := by
    rw [List.find?_eq_none]
    intro e he hc
    exact h.1 (List.mem_map.2 ⟨e, he, beq_iff_eq.1 hc⟩)
  have hrun : upperRuns.find? (·.has c) = none := by
    rw [List.find?_eq_none]
    intro q hq
    simp [Run.has_eq_false_of_notMem_codes h.2 hq]
  rw [upperChar, hexpansion, moveBy_of_none hrun]

/-- A character is raised or stays as it is. -/
theorem mem_upperChar_cases (hd : d ∈ upperChar c) :
    (c.toNat ∈ raised ∧ d.toNat ∈ raisings) ∨ d = c ∧ upperChar c = [c] := by
  unfold upperChar at hd ⊢
  cases he : upperExpansions.find? (·.1 == c.toNat) with
  | some e =>
    rw [he] at hd
    obtain ⟨n, hn, rfl⟩ := List.mem_map.1 hd
    have hmem := List.mem_of_find?_eq_some he
    have hc : e.1 = c.toNat := by simpa using List.find?_some he
    have hland := List.all_eq_true.1 (List.all_eq_true.1 upperExpansions_land e hmem) n hn
    refine Or.inl ⟨List.mem_append_left _ (List.mem_map.2 ⟨e, hmem, hc⟩), ?_⟩
    rw [beq_iff_eq.1 hland]
    exact List.mem_append_left _ (List.mem_flatMap.2 ⟨e, hmem, hn⟩)
  | none =>
    rw [he, List.mem_singleton] at hd
    cases hf : upperRuns.find? (·.has c) with
    | some r =>
      have hmem := List.mem_of_find?_eq_some hf
      have hr : r.has c := by simpa using List.find?_some hf
      have hmove : d = r.move c := by rw [hd, moveBy, hf]
      refine Or.inl ⟨List.mem_append_right _ (List.mem_flatMap.2 ⟨r, hmem, Run.mem_codes hr⟩), ?_⟩
      rw [hmove]
      exact List.mem_append_right _
        (List.mem_flatMap.2 ⟨r, hmem, Run.mem_landings (upperRuns_stay r hmem).1 hr⟩)
    | none =>
      rw [moveBy_of_none hf] at hd
      exact Or.inr ⟨hd, by rw [moveBy_of_none hf]⟩

theorem upperChar_of_mem_upperChar (hd : d ∈ upperChar c) : upperChar d = [d] := by
  rcases mem_upperChar_cases hd with ⟨-, hland⟩ | ⟨rfl, hself⟩
  · exact upperChar_of_notMem (notMem_of_bitsAt raisings_apart hland)
  · exact hself

theorem uppercase_eq_self (h : ∀ c ∈ s.toList, upperChar c = [c]) : uppercase s = s := by
  rw [← String.toList_inj, toList_uppercase]
  generalize s.toList = cs at h
  induction cs with
  | nil => rfl
  | cons c r ih =>
    rw [List.flatMap_cons, h c (by simp), ih fun d hd => h d (by simp [hd])]
    rfl

@[simp] theorem uppercase_uppercase (s : String) : uppercase (uppercase s) = uppercase s := by
  refine uppercase_eq_self fun d hd => ?_
  rw [toList_uppercase] at hd
  obtain ⟨c, -, hc⟩ := List.mem_flatMap.1 hd
  exact upperChar_of_mem_upperChar hc

/-- A text that is uppercase has no small letter of ASCII. -/
theorem isLower_eq_false_of_mem (h : uppercase s = s) (hc : c ∈ s.toList) : c.isLower = false := by
  rw [← h, toList_uppercase] at hc
  obtain ⟨b, -, hb⟩ := List.mem_flatMap.1 hc
  have hself := upperChar_of_mem_upperChar hb
  rw [← Bool.not_eq_true]
  intro hlower
  have hletter : decide (97 ≤ c.val) && decide (c.val ≤ 122) := hlower
  have hn : 97 ≤ c.toNat ∧ c.toNat < 123 := by
    simp only [Bool.and_eq_true, decide_eq_true_eq, UInt32.le_iff_toNat_le] at hletter
    exact ⟨hletter.1, Nat.lt_succ_of_le hletter.2⟩
  rw [upperChar_ascii (by omega), List.singleton_inj] at hself
  have hall : ∀ n < 123, 97 ≤ n → (Char.ofNat n).toUpper ≠ Char.ofNat n := by decide
  have hne := hall c.toNat hn.2 hn.1
  rw [Char.ofNat_toNat] at hne
  exact hne hself

/-- The numbers of the blanks. -/
def blankCodes : List Nat :=
  blankRanges.flatMap fun r => (List.range (r.2 - r.1 + 1)).map fun i => r.1 + i

theorem mem_blankCodes (h : isBlank c) : c.toNat ∈ blankCodes := by
  obtain ⟨r, hr, hc⟩ := List.any_eq_true.1 h
  simp only [Bool.and_eq_true, decide_eq_true_eq] at hc
  refine List.mem_flatMap.2 ⟨r, hr, List.mem_map.2 ⟨c.toNat - r.1, List.mem_range.2 ?_, ?_⟩⟩
  · omega
  · omega

/-- No blank has an uppercase form, and none is part of one. -/
theorem blankCodes_apart : bitsAt blankCodes &&& bitsAt (raised ++ raisings) = 0 := by
  decide +kernel

theorem isBlank_eq_false_of_mem (h : c.toNat ∈ raised ++ raisings) : isBlank c = false := by
  rw [← Bool.not_eq_true]
  intro hblank
  exact notMem_of_bitsAt blankCodes_apart (mem_blankCodes hblank) h

/-- A character is raised to blanks only if it is blank itself. -/
theorem isBlank_of_mem_upperChar (hd : d ∈ upperChar c) : isBlank d = isBlank c := by
  rcases mem_upperChar_cases hd with ⟨hc, hland⟩ | ⟨rfl, -⟩
  · rw [isBlank_eq_false_of_mem (List.mem_append_left _ hc),
      isBlank_eq_false_of_mem (List.mem_append_right _ hland)]
  · rfl

theorem upperChar_ne_nil (c : Char) : upperChar c ≠ [] := by
  unfold upperChar
  cases he : upperExpansions.find? (·.1 == c.toNat) with
  | some e =>
    -- one of the letters is outside of ASCII or a foreign one, so there are letters
    have hstay := List.all_eq_true.1 upperExpansions_stay e (List.mem_of_find?_eq_some he)
    obtain ⟨n, hn, -⟩ := List.any_eq_true.1 hstay
    exact List.ne_nil_of_mem (List.mem_map_of_mem hn)
  | none => simp

theorem uppercase_eq_empty_iff : uppercase s = "" ↔ s = "" := by
  rw [← String.toList_inj, ← String.toList_inj, toList_uppercase, String.toList_empty,
    List.flatMap_eq_nil_iff]
  constructor
  · intro h
    refine List.eq_nil_iff_forall_not_mem.2 fun c hc => ?_
    exact upperChar_ne_nil c (h c hc)
  · intro h
    simp [h]

theorem bare_flatMap_upperChar (h : Bare cs) : Bare (cs.flatMap upperChar) := by
  have hblank : ∀ c, isBlank c = false → ∀ d ∈ upperChar c, isBlank d = false := by
    intro c hc d hd
    rw [isBlank_of_mem_upperChar hd, hc]
  constructor
  · cases cs with
    | nil => simp
    | cons c r =>
      intro d hd
      rw [List.flatMap_cons, List.head?_append_of_ne_nil _ (upperChar_ne_nil c)] at hd
      exact hblank c (h.1 c rfl) d (List.mem_of_head? hd)
  · rcases List.eq_nil_or_concat cs with rfl | ⟨r, c, rfl⟩
    · simp
    · intro d hd
      rw [List.concat_eq_append, List.flatMap_append, List.flatMap_singleton,
        List.getLast?_append_of_ne_nil _ (upperChar_ne_nil c)] at hd
      exact hblank c (h.2 c (by simp)) d (List.mem_of_getLast? hd)

/-- A text may be trimmed before it is raised or after. -/
theorem trim_uppercase (s : String) : trim (uppercase s) = uppercase (trim s) := by
  rw [← String.toList_inj, toList_trim, toList_uppercase, toList_uppercase, toList_trim]
  obtain ⟨before, after, hblank, hbare, hcs⟩ := exists_bare s.toList
  have hends : ∀ d ∈ before.flatMap upperChar ++ after.flatMap upperChar, isBlank d := by
    intro d hd
    rw [← List.flatMap_append] at hd
    obtain ⟨c, hc, hdc⟩ := List.mem_flatMap.1 hd
    rw [isBlank_of_mem_upperChar hdc]
    exact hblank c hc
  have hsplit := congrArg (List.flatMap upperChar) hcs
  rw [List.flatMap_append, List.flatMap_append] at hsplit
  rw [hsplit, trimChars_of_bare hends (bare_flatMap_upperChar hbare)]

/-- A character outside of ASCII has an uppercase form that is outside of it too, or that has one of
few letters. -/
theorem exists_mem_upperChar (h : 128 ≤ c.toNat) :
    ∃ d ∈ upperChar c, 128 ≤ d.toNat ∨ d ∈ foreignUppers := by
  unfold upperChar
  cases he : upperExpansions.find? (·.1 == c.toNat) with
  | some e =>
    have hstay := List.all_eq_true.1 upperExpansions_stay e (List.mem_of_find?_eq_some he)
    obtain ⟨n, hn, hd⟩ := List.any_eq_true.1 hstay
    refine ⟨Char.ofNat n, List.mem_map_of_mem hn, ?_⟩
    simpa using hd
  | none =>
    exact ⟨moveBy upperRuns c, List.mem_singleton.2 rfl, moveBy_of_stays upperRuns_stay h⟩

/-- On what has an uppercase form of ASCII without those letters, each letter is raised on its
own. -/
theorem flatMap_upperChar_of_ascii
    (h : ∀ d ∈ cs.flatMap upperChar, d.toNat < 128 ∧ d ∉ foreignUppers) :
    cs.flatMap upperChar = cs.map Char.toUpper := by
  rw [List.map_eq_flatMap]
  refine List.flatMap_congr fun c hc => upperChar_ascii ?_
  by_contra hlt
  obtain ⟨d, hd, hout⟩ := exists_mem_upperChar (Nat.le_of_not_lt hlt)
  obtain ⟨hascii, hfew⟩ := h d (List.mem_flatMap.2 ⟨c, hc, hd⟩)
  rcases hout with hout | hout
  · omega
  · exact hfew hout

theorem toUpper_cases (c : Char) :
    c.toUpper = c ∨ (c.isAlpha ∧ c.toUpper.isAlpha) ∧ c.toUpper.toLower = c := by
  by_cases h : 'a'.val ≤ c.val ∧ c.val ≤ 'z'.val
  · right
    have hn : 97 ≤ c.toNat ∧ c.toNat < 123 := by
      simp only [UInt32.le_iff_toNat_le] at h
      exact ⟨h.1, Nat.lt_succ_of_le h.2⟩
    have hall : ∀ n < 123, 97 ≤ n → ((Char.ofNat n).isAlpha ∧ (Char.ofNat n).toUpper.isAlpha) ∧
        (Char.ofNat n).toUpper.toLower = Char.ofNat n := by decide
    rw [← Char.ofNat_toNat c]
    exact hall _ hn.2 hn.1
  · left
    exact dif_neg h

theorem eq_or_eq_toLower_of_toUpper (h : c.toUpper = d) : c = d ∨ c = d.toLower := by
  subst h
  rcases toUpper_cases c with heq | ⟨-, heq⟩
  · exact Or.inl heq.symm
  · exact Or.inr heq.symm

theorem map_toUpper_eq_iff (hd : ∀ d ∈ ds, d.isAlpha = false) :
    cs.map Char.toUpper = ds ↔ cs = ds := by
  have hfixed : ∀ l : List Char, (∀ c ∈ l, c.toUpper = c) → l.map Char.toUpper = l := fun l hl =>
    (List.map_congr_left hl).trans (List.map_id l)
  constructor
  · rintro rfl
    refine (hfixed cs fun c hc => ?_).symm
    rcases toUpper_cases c with heq | ⟨⟨-, halpha⟩, -⟩
    · exact heq
    · rw [hd c.toUpper (List.mem_map_of_mem hc)] at halpha
      cases halpha
  · rintro rfl
    refine hfixed cs fun c hc => ?_
    rcases toUpper_cases c with heq | ⟨⟨halpha, -⟩, -⟩
    · exact heq
    · rw [hd c hc] at halpha
      cases halpha

end CloudEvents.Text
