import CloudEvents.Proofs.Text.Blank
import CloudEvents.Text.Digits
import Mathlib.Algebra.Group.Nat.Defs
import Mathlib.Data.List.Induction

/-! Decimal digits inside texts, and the numbers that they denote. -/
namespace CloudEvents.Text

variable {c : Char} {l : List Char} {width m n : Nat}

def digits : List Char := "0123456789".toList

theorem mem_digits_iff : c ∈ digits ↔ c.isDigit := by
  constructor
  · have hall : digits.all Char.isDigit := by decide
    exact List.all_eq_true.1 hall c
  · intro h
    have hn : 48 ≤ c.toNat ∧ c.toNat < 58 := by
      simp only [Char.isDigit, ge_iff_le, Bool.and_eq_true, decide_eq_true_eq,
        UInt32.le_iff_toNat_le] at h
      exact ⟨h.1, Nat.lt_succ_of_le h.2⟩
    have hall : ∀ k < 58, 48 ≤ k → Char.ofNat k ∈ digits := by decide
    rw [← Char.ofNat_toNat c]
    exact hall _ hn.2 hn.1

theorem isBlank_of_isDigit (h : c.isDigit) : isBlank c = false := by
  have hall : digits.all fun d => !isBlank d := by decide +kernel
  simpa using List.all_eq_true.1 hall c (mem_digits_iff.2 h)

theorem length_decimal_of_lt (hw : 0 < width) (h : n < 10 ^ width) :
    (decimal width n).length = width := by
  have := (Nat.length_toDigits_le_iff (by decide) hw).2 h
  rw [length_decimal]
  omega

theorem decimal_ne_nil : decimal width n ≠ [] := by
  simp [decimal, padLeft]

theorem digitChar_of_isDigit (h : c.isDigit) :
    c.toNat - '0'.toNat < 10 ∧ (c.toNat - '0'.toNat).digitChar = c := by
  have hall : digits.all fun d =>
      d.toNat - '0'.toNat < 10 && (d.toNat - '0'.toNat).digitChar == d := by
    decide
  simpa using List.all_eq_true.1 hall c (mem_digits_iff.2 h)

theorem ofDecimal_append (l m : List Char) :
    ofDecimal (l ++ m) = 10 ^ m.length * ofDecimal l + ofDecimal m := by
  rw [ofDecimal, Nat.ofDigitChars_append, Nat.ofDigitChars_eq_ofDigitChars_zero]
  rfl

theorem ofDecimal_lt (h : ∀ c ∈ l, c.isDigit) : ofDecimal l < 10 ^ l.length := by
  induction l with
  | nil => decide
  | cons c l ih =>
    have hc := (digitChar_of_isDigit (h c List.mem_cons_self)).1
    have hl := ih fun d hd => h d (List.mem_cons_of_mem c hd)
    have hone : ofDecimal [c] = c.toNat - '0'.toNat := by simp [ofDecimal, Nat.ofDigitChars_cons]
    rw [← List.singleton_append, ofDecimal_append, hone, List.singleton_append, List.length_cons,
      Nat.pow_succ]
    calc 10 ^ l.length * (c.toNat - '0'.toNat) + ofDecimal l
        < 10 ^ l.length * (c.toNat - '0'.toNat) + 10 ^ l.length := Nat.add_lt_add_left hl _
      _ = 10 ^ l.length * (c.toNat - '0'.toNat + 1) := (Nat.mul_succ _ _).symm
      _ ≤ 10 ^ l.length * 10 := Nat.mul_le_mul_left _ hc

theorem decimal_succ (hw : 0 < width) (hn : n < 10) (m : Nat) :
    decimal (width + 1) (10 * m + n) = decimal width m ++ [n.digitChar] := by
  have hdigit : Nat.toDigits 10 n = [n.digitChar] := Nat.toDigits_of_lt_base hn
  by_cases hm : m = 0
  -- a zero has one digit of its own, which counts as one of the zeros in front
  · subst hm
    have hzero : ['0'] = List.replicate 1 '0' := rfl
    have hwidth : width = width - 1 + 1 := by omega
    simp only [decimal, padLeft, Nat.mul_zero, Nat.zero_add, hdigit, Nat.toDigits_zero,
      List.length_singleton, Nat.add_sub_cancel]
    rw [hzero, List.replicate_append_replicate, ← hwidth]
  · rw [decimal, ← Nat.toDigits_append_toDigits (by decide) (by omega) hn, hdigit, decimal, padLeft,
      padLeft, List.length_append, List.length_singleton, Nat.add_sub_add_right, List.append_assoc]

/-- Digits are those of the number that they denote. -/
theorem decimal_ofDecimal (h : ∀ c ∈ l, c.isDigit) (hl : l ≠ []) :
    decimal l.length (ofDecimal l) = l := by
  induction l using List.reverseRecOn with
  | nil => exact absurd rfl hl
  | append_singleton l c ih =>
    obtain ⟨hlt, hc⟩ := digitChar_of_isDigit (h c (by simp))
    have hvalue : ofDecimal (l ++ [c]) = 10 * ofDecimal l + (c.toNat - '0'.toNat) := by
      simp [ofDecimal, Nat.ofDigitChars_append, Nat.ofDigitChars_cons]
    rw [hvalue, List.length_append, List.length_singleton]
    by_cases hnil : l = []
    · subst hnil
      have hzero : ofDecimal [] = 0 := rfl
      rw [hzero, Nat.mul_zero, Nat.zero_add, decimal, Nat.toDigits_of_lt_base hlt, hc]
      rfl
    · rw [decimal_succ (List.length_pos_iff.2 hnil) hlt, hc,
        ih (fun d hd => h d (List.mem_append_left _ hd)) hnil]

theorem decimal_inj (h : decimal width m = decimal width n) : m = n := by
  rw [← ofDecimal_decimal width m, h, ofDecimal_decimal]

/-- To cut the digits of a fraction is to round it down. -/
theorem ofDecimal_fitRight (h : ∀ c ∈ l, c.isDigit) (k : Nat) :
    ofDecimal (fitRight k l) = ofDecimal l * 10 ^ k / 10 ^ l.length := by
  by_cases hk : l.length ≤ k
  · have hpos : 0 < 10 ^ l.length := Nat.pow_pos (by decide)
    have hzeros : ofDecimal (List.replicate (k - l.length) '0') = 0 := by
      rw [ofDecimal, Nat.ofDigitChars_replicate_zero, Nat.mul_zero]
    have hsplit : 10 ^ k = 10 ^ (k - l.length) * 10 ^ l.length := by
      rw [← Nat.pow_add, Nat.sub_add_cancel hk]
    rw [fitRight, List.take_of_length_le hk, ofDecimal_append, hzeros, List.length_replicate,
      hsplit, ← Nat.mul_assoc, Nat.mul_div_cancel _ hpos, Nat.add_zero, Nat.mul_comm]
  · have hlen : l.length = (l.drop k).length + k := by
      rw [List.length_drop]
      omega
    have hpos : 0 < 10 ^ (l.drop k).length := Nat.pow_pos (by decide)
    have hrest : ofDecimal (l.drop k) < 10 ^ (l.drop k).length :=
      ofDecimal_lt fun c hc => h c (List.mem_of_mem_drop hc)
    have hvalue : ofDecimal l =
        10 ^ (l.drop k).length * ofDecimal (l.take k) + ofDecimal (l.drop k) := by
      rw [← ofDecimal_append, List.take_append_drop]
    rw [fitRight, Nat.sub_eq_zero_of_le (by omega), List.replicate_zero, List.append_nil, hlen,
      Nat.pow_add, Nat.mul_div_mul_right _ _ (Nat.pow_pos (by decide)), hvalue,
      Nat.mul_add_div hpos, Nat.div_eq_of_lt hrest, Nat.add_zero]

end CloudEvents.Text
