import CloudEvents.Text.Casing
import Mathlib.Data.List.Basic
import Mathlib.Data.Nat.ModEq

/-! Lowercase texts, each of which is its own lowercase, and the cases of ASCII. -/
namespace CloudEvents.Text

variable {c : Char} {cs before : List Char} {s t : String} {r q : Run} {rs qs : List Run}

namespace Run

/-- The number of the character that comes of the first one. -/
def low (r : Run) : Nat := (r.first + r.shift).toNat

/-- The number of the character that comes of the last one. -/
def high (r : Run) : Nat := (r.last + r.shift).toNat

/-- The numbers of the characters that the run has. -/
def codes (r : Run) : List Nat :=
  (List.range ((r.last - r.first) / r.step + 1)).map fun i => r.first + r.step * i

/-- The numbers that the run moves its characters onto. -/
def landings (r : Run) : List Nat := r.codes.map fun n : Nat => (n + r.shift).toNat

/-- Whether `r` moves every character that it has onto a character. -/
def lands (r : Run) : Bool :=
  decide (0 ≤ r.first + r.shift) && (Nat.blt r.high 0xd800 ||
    Nat.blt 0xdfff r.low && Nat.blt r.high 0x110000)

theorem toNat_move (hl : r.lands) (hc : r.has c) :
    (r.move c).toNat = (c.toNat + r.shift).toNat := by
  simp only [lands, Bool.and_eq_true, Bool.or_eq_true, decide_eq_true_eq, Nat.blt_eq, low,
    high] at hl
  simp only [has, Bool.and_eq_true, decide_eq_true_eq] at hc
  obtain ⟨⟨hfirst, hlast⟩, -⟩ := hc
  have hv : (c.toNat + r.shift).toNat.isValidChar := by
    unfold Nat.isValidChar
    omega
  rw [move, Char.ofNat, dif_pos hv]
  rfl

/-- The characters of a run stay as far from the first one as they are. -/
theorem toNat_move_low (hl : r.lands) (hc : r.has c) :
    (r.move c).toNat = r.low + (c.toNat - r.first) := by
  have hn := toNat_move hl hc
  simp only [lands, Bool.and_eq_true, decide_eq_true_eq] at hl
  simp only [has, Bool.and_eq_true, decide_eq_true_eq] at hc
  obtain ⟨⟨hfirst, hlast⟩, -⟩ := hc
  simp only [hn, low]
  omega

theorem mem_codes (hc : r.has c) : c.toNat ∈ r.codes := by
  simp only [has, Bool.and_eq_true, decide_eq_true_eq, beq_iff_eq] at hc
  obtain ⟨⟨hfirst, hlast⟩, hstep⟩ := hc
  have hle : (c.toNat - r.first) / r.step ≤ (r.last - r.first) / r.step :=
    Nat.div_le_div_right (by omega)
  refine List.mem_map.2 ⟨(c.toNat - r.first) / r.step, List.mem_range.2 (by omega), ?_⟩
  rw [Nat.mul_div_cancel' (Nat.dvd_of_mod_eq_zero hstep)]
  omega

theorem mem_landings (hl : r.lands) (hc : r.has c) : (r.move c).toNat ∈ r.landings :=
  List.mem_map.2 ⟨c.toNat, mem_codes hc, (toNat_move hl hc).symm⟩

theorem has_eq_false_of_notMem_codes (h : c.toNat ∉ rs.flatMap codes) (hq : q ∈ rs) :
    q.has c = false := by
  rw [← Bool.not_eq_true]
  intro hc
  exact h (List.mem_flatMap.2 ⟨q, hq, mem_codes hc⟩)

end Run

/-- The number in which the bits at these places are set. Two long lists are compared at once by
their numbers. -/
def bitsAt (l : List Nat) : Nat := l.foldr (fun n b => b ||| 1 <<< n) 0

theorem testBit_bitsAt {l : List Nat} {n : Nat} (h : n ∈ l) : (bitsAt l).testBit n := by
  induction l with
  | nil => cases h
  | cons m r ih =>
    rw [bitsAt, List.foldr_cons, Nat.testBit_or, Bool.or_eq_true]
    rcases List.mem_cons.1 h with rfl | h
    · exact Or.inr (by simp)
    · exact Or.inl (ih h)

theorem notMem_of_bitsAt {k l : List Nat} {n : Nat} (h : bitsAt k &&& bitsAt l = 0) (hn : n ∈ k) :
    n ∉ l := by
  intro hl
  have hboth : (bitsAt k &&& bitsAt l).testBit n := by
    rw [Nat.testBit_and, testBit_bitsAt hn, testBit_bitsAt hl]
    rfl
  rw [h, Nat.zero_testBit] at hboth
  cases hboth

/-- Where lowercasing leaves a character: it has no lowercase form but itself. -/
def Unmoved (c : Char) : Prop := c ≠ 'Σ' ∧ lowerChar c = [c]

theorem lowerRuns_land : ∀ r ∈ lowerRuns, r.lands := by decide +kernel

/-- The numbers of the characters that have a lowercase form. -/
def lowered : List Nat := ['İ', 'Σ'].map Char.toNat ++ lowerRuns.flatMap Run.codes

/-- The numbers of the characters that lowercase forms consist of. -/
def lowerings : List Nat :=
  ['i', '\u0307', 'σ', 'ς'].map Char.toNat ++ lowerRuns.flatMap Run.landings

/-- No lowercase letter has another lowercase form. -/
theorem lowerings_apart : bitsAt lowerings &&& bitsAt lowered = 0 := by
  decide +kernel

theorem unmoved_of_notMem (h : c.toNat ∉ lowered) : Unmoved c := by
  rw [lowered, List.mem_append, not_or] at h
  have hne : ∀ d ∈ ['İ', 'Σ'], c ≠ d := by
    rintro d hd rfl
    exact h.1 (List.mem_map_of_mem hd)
  have hnone : lowerRuns.find? (·.has c) = none := by
    rw [List.find?_eq_none]
    intro q hq
    simp [Run.has_eq_false_of_notMem_codes h.2 hq]
  refine ⟨hne 'Σ' (by simp), ?_⟩
  rw [lowerChar, if_neg (hne 'İ' (by simp)), moveBy_of_none hnone]

theorem unmoved_of_mem_lowerings (h : c.toNat ∈ lowerings) : Unmoved c :=
  unmoved_of_notMem (notMem_of_bitsAt lowerings_apart h)

/-- The lowercase forms outside of the runs. -/
theorem unmoved_of_mem_lone (h : c ∈ ['i', '\u0307', 'σ', 'ς']) : Unmoved c :=
  unmoved_of_mem_lowerings (List.mem_append_left _ (List.mem_map_of_mem h))

theorem unmoved_move (hr : r ∈ lowerRuns) (hc : r.has c) : Unmoved (r.move c) := by
  have hland := List.mem_flatMap.2 ⟨r, hr, Run.mem_landings (lowerRuns_land r hr) hc⟩
  exact unmoved_of_mem_lowerings (List.mem_append_right _ hland)

theorem unmoved_of_mem_lowerChar {d : Char} (hc : c ≠ 'Σ') (hd : d ∈ lowerChar c) : Unmoved d := by
  by_cases hi : c = 'İ'
  · rw [lowerChar, if_pos hi] at hd
    exact unmoved_of_mem_lone (List.mem_append_left ['σ', 'ς'] hd)
  · rw [lowerChar, if_neg hi, List.mem_singleton] at hd
    subst hd
    cases hf : lowerRuns.find? (·.has c) with
    | none =>
      rw [moveBy_of_none hf]
      exact ⟨hc, by rw [lowerChar, if_neg hi, moveBy_of_none hf]⟩
    | some r =>
      have hr : r.has c := by simpa using List.find?_some hf
      simp only [moveBy, hf]
      exact unmoved_move (List.mem_of_find?_eq_some hf) hr

theorem unmoved_of_mem_lowerFrom (h : c ∈ lowerFrom before cs) : Unmoved c := by
  induction cs generalizing before with
  | nil => simp [lowerFrom] at h
  | cons d r ih =>
    rcases List.mem_append.1 h with h | h
    · split at h
      · rw [List.mem_singleton] at h
        refine unmoved_of_mem_lone ?_
        split at h <;> subst h <;> simp
      · exact unmoved_of_mem_lowerChar ‹_› h
    · exact ih h

theorem lowerFrom_of_unmoved (h : ∀ c ∈ cs, Unmoved c) : lowerFrom before cs = cs := by
  induction cs generalizing before with
  | nil => rfl
  | cons c r ih =>
    obtain ⟨hne, hc⟩ := h c (by simp)
    rw [lowerFrom, if_neg hne, hc, ih fun d hd => h d (by simp [hd])]
    rfl

/-- Without a capital sigma each character is lowercased on its own. -/
theorem lowerFrom_of_notMem (h : 'Σ' ∉ cs) : lowerFrom before cs = cs.flatMap lowerChar := by
  induction cs generalizing before with
  | nil => rfl
  | cons c r ih =>
    simp only [List.mem_cons, not_or] at h
    rw [lowerFrom, if_neg (Ne.symm h.1), ih h.2, List.flatMap_cons]

theorem lowercase_eq_self_iff : lowercase s = s ↔ ∀ c ∈ s.toList, Unmoved c := by
  rw [← String.toList_inj, toList_lowercase]
  constructor
  · intro h c hc
    rw [← h] at hc
    exact unmoved_of_mem_lowerFrom hc
  · exact lowerFrom_of_unmoved

@[simp] theorem lowercase_lowercase (s : String) : lowercase (lowercase s) = lowercase s := by
  rw [lowercase_eq_self_iff, toList_lowercase]
  intro c hc
  exact unmoved_of_mem_lowerFrom hc

theorem lowercase_append (hs : lowercase s = s) (ht : lowercase t = t) :
    lowercase (s ++ t) = s ++ t := by
  rw [lowercase_eq_self_iff] at hs ht ⊢
  intro c hc
  rcases List.mem_append.1 (String.toList_append ▸ hc) with hc | hc
  · exact hs c hc
  · exact ht c hc

/-- What is left of a lowercase text behind its start is lowercase. -/
theorem lowercase_suffix (h : lowercase (s ++ t) = s ++ t) : lowercase t = t := by
  rw [lowercase_eq_self_iff] at h ⊢
  intro c hc
  exact h c (by simp [String.toList_append, hc])

theorem moveBy_append (h : ∀ q ∈ qs, q.has c = false) : moveBy (rs ++ qs) c = moveBy rs c := by
  have hnone : qs.find? (·.has c) = none := by
    rw [List.find?_eq_none]
    intro q hq
    simp [h q hq]
  simp only [moveBy, List.find?_append, hnone, Option.or_none]

/-- A run behind ASCII has no character of ASCII. -/
theorem has_eq_false_of_le (hc : c.toNat < 128) (hr : 128 ≤ r.first) : r.has c = false := by
  have hlt : ¬ r.first ≤ c.toNat := by omega
  simp [Run.has, hlt]

theorem lowerChar_ascii (h : c.toNat < 128) : lowerChar c = [c.toLower] := by
  have hsplit : lowerRuns = lowerRuns.take 1 ++ lowerRuns.drop 1 :=
    (List.take_append_drop 1 lowerRuns).symm
  have hlate : ∀ r ∈ lowerRuns.drop 1, 128 ≤ r.first := by decide +kernel
  have hfirst : ∀ n < 128, Char.ofNat n ≠ 'İ' ∧
      moveBy (lowerRuns.take 1) (Char.ofNat n) = (Char.ofNat n).toLower := by decide +kernel
  obtain ⟨hne, hmove⟩ := Char.ofNat_toNat c ▸ hfirst c.toNat h
  rw [lowerChar, if_neg hne, hsplit, moveBy_append fun r hr => has_eq_false_of_le h (hlate r hr),
    hmove]

theorem upperChar_ascii (h : c.toNat < 128) : upperChar c = [c.toUpper] := by
  have hsplit : upperRuns = upperRuns.take 1 ++ upperRuns.drop 1 :=
    (List.take_append_drop 1 upperRuns).symm
  have hlate : ∀ r ∈ upperRuns.drop 1, 128 ≤ r.first := by decide +kernel
  have hfirst : ∀ n < 128, moveBy (upperRuns.take 1) (Char.ofNat n) = (Char.ofNat n).toUpper := by
    decide +kernel
  have hsingle : upperExpansions.find? (·.1 == c.toNat) = none := by
    have hall : ∀ x ∈ upperExpansions, 128 ≤ x.1 := by decide +kernel
    rw [List.find?_eq_none]
    intro x hx
    have := hall x hx
    simp only [beq_iff_eq]
    omega
  have hmove := Char.ofNat_toNat c ▸ hfirst c.toNat h
  rw [upperChar, hsingle]
  rw [hsplit, moveBy_append fun r hr => has_eq_false_of_le h (hlate r hr), hmove]

/-- Where runs stay outside of ASCII with what is outside of it, except for single letters that come
down to `few`. -/
def Stays (rs : List Run) (few : List Char) : Prop :=
  ∀ r ∈ rs, r.lands ∧ (r.last < 128 ∨ 128 ≤ r.low ∨
    r.first = r.last ∧ r.low ∈ few.map Char.toNat)

theorem moveBy_of_stays {few : List Char} (hs : Stays rs few) (h : 128 ≤ c.toNat) :
    128 ≤ (moveBy rs c).toNat ∨ moveBy rs c ∈ few := by
  cases hf : rs.find? (·.has c) with
  | none =>
    rw [moveBy_of_none hf]
    exact Or.inl h
  | some r =>
    have hc : r.has c := by simpa using List.find?_some hf
    obtain ⟨hland, hstay⟩ := hs r (List.mem_of_find?_eq_some hf)
    have hmove := Run.toNat_move_low hland hc
    simp only [Run.has, Bool.and_eq_true, decide_eq_true_eq] at hc
    obtain ⟨⟨hfirst, hlast⟩, -⟩ := hc
    simp only [moveBy, hf]
    rcases hstay with hascii | hlow | ⟨hone, hlow⟩
    · omega
    · left
      omega
    · right
      obtain ⟨d, hd, heq⟩ := List.mem_map.1 hlow
      have hsame : r.move c = d := Char.toNat_inj.1 (by omega)
      rwa [hsame]

def Ascii (s : String) : Prop := ∀ c ∈ s.toList, c.toNat < 128

theorem toList_uppercase_ascii (h : Ascii s) :
    (uppercase s).toList = s.toList.map Char.toUpper := by
  rw [toList_uppercase, List.map_eq_flatMap]
  exact List.flatMap_congr fun c hc => upperChar_ascii (h c hc)

theorem toList_lowercase_ascii (h : Ascii s) :
    (lowercase s).toList = s.toList.map Char.toLower := by
  have hsigma : 'Σ' ∉ s.toList := by
    intro hm
    have := h _ hm
    revert this
    decide
  rw [toList_lowercase, lowerFrom_of_notMem hsigma, List.map_eq_flatMap]
  exact List.flatMap_congr fun c hc => lowerChar_ascii (h c hc)

/-- Whether a text is of ASCII and has no capital letter. -/
def isAsciiLower (s : String) : Bool := s.toList.all fun c => c.toNat < 128 && c.toLower == c

theorem lowercase_of_isAsciiLower (h : isAsciiLower s) : lowercase s = s := by
  have hall : ∀ c ∈ s.toList, c.toNat < 128 ∧ c.toLower = c := by
    simpa only [isAsciiLower, List.all_eq_true, Bool.and_eq_true, decide_eq_true_eq, beq_iff_eq]
      using h
  rw [← String.toList_inj, toList_lowercase_ascii fun c hc => (hall c hc).1]
  exact (List.map_congr_left fun c hc => (hall c hc).2).trans (List.map_id _)

end CloudEvents.Text
