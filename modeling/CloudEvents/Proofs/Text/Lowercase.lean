import CloudEvents.Proofs.Text.Casing

/-! Words of ASCII letters in the lowercase form of a text. -/
namespace CloudEvents.Text

variable {c : Char} {cs before w : List Char} {s : String}

/-- Holds of words of ASCII that come of nothing outside of it: there is another capital of `k`, and
the capital `i` with a dot has a lowercase form that starts with an `i`. -/
def Native (w : List Char) : Prop := (∀ c ∈ w, c.toNat < 128 ∧ c ≠ 'k') ∧ w.getLast? ≠ some 'i'

instance : DecidablePred Native := fun w =>
  decidable_of_iff ((w.all fun c => c.toNat < 128 && c != 'k') ∧ w.getLast? ≠ some 'i')
    (by simp [Native])

theorem lowerRuns_stay : Stays lowerRuns ['k'] := by
  unfold Stays
  decide +kernel

theorem toLower_of_le (h : 128 ≤ c.toNat) : c.toLower = c := by
  refine dif_neg fun hc => ?_
  have hz : c.toNat ≤ 90 := UInt32.le_iff_toNat_le.1 hc.2
  omega

theorem toNat_lt_of_toLower (h : c.toLower.toNat < 128) : c.toNat < 128 := by
  by_contra hc
  rw [toLower_of_le (Nat.le_of_not_lt hc)] at h
  exact hc h

/-- What a character starts with in lowercase, and what else comes of it: a letter of ASCII becomes
its small letter, and of the others only one becomes two characters. -/
theorem lowerFrom_cons_cases (before : List Char) (c : Char) (cs : List Char) :
    ∃ d ds, lowerFrom before (c :: cs) = d :: (ds ++ lowerFrom (c :: before) cs) ∧
      (c.toNat < 128 ∧ d = c.toLower ∧ ds = [] ∨ (128 ≤ d.toNat ∨ d = 'k') ∧ ds = [] ∨
        d = 'i' ∧ ds = ['\u0307']) := by
  by_cases hσ : c = 'Σ'
  · refine ⟨_, [], by rw [lowerFrom, if_pos hσ]; rfl, Or.inr (Or.inl ⟨Or.inl ?_, rfl⟩)⟩
    split <;> decide
  · rw [lowerFrom, if_neg hσ]
    by_cases h : c.toNat < 128
    · exact ⟨_, [], by rw [lowerChar_ascii h]; rfl, Or.inl ⟨h, rfl, rfl⟩⟩
    · by_cases hi : c = 'İ'
      · exact ⟨'i', ['\u0307'], by rw [lowerChar, if_pos hi]; rfl, Or.inr (Or.inr ⟨rfl, rfl⟩)⟩
      · have hfar := moveBy_of_stays lowerRuns_stay (Nat.le_of_not_lt h)
        rw [List.mem_singleton] at hfar
        exact ⟨_, [], by rw [lowerChar, if_neg hi]; rfl, Or.inr (Or.inl ⟨hfar, rfl⟩)⟩

namespace Native

theorem tail (hw : Native (c :: w)) : Native w := by
  refine ⟨fun d hd => hw.1 d (List.mem_cons_of_mem _ hd), fun h => hw.2 ?_⟩
  cases w with
  | nil => cases h
  | cons d r => rwa [List.getLast?_cons_cons]

theorem eq_nil_of_dotted (hw : Native w) (h : w <+: '\u0307' :: cs) : w = [] := by
  cases w with
  | nil => rfl
  | cons c r =>
    obtain ⟨rfl, -⟩ := List.cons_prefix_cons.1 h
    exact absurd (hw.1 _ List.mem_cons_self).1 (by decide)

theorem exists_prefix (hw : Native w) (h : w <+: lowerFrom before cs) :
    ∃ v, v <+: cs ∧ v.map Char.toLower = w := by
  induction cs generalizing before w with
  | nil => exact ⟨[], List.nil_prefix, (List.prefix_nil.1 h).symm⟩
  | cons c cs ih =>
    cases w with
    | nil => exact ⟨[], List.nil_prefix, rfl⟩
    | cons d w =>
      obtain ⟨e, es, heq, hcases⟩ := lowerFrom_cons_cases before c cs
      rw [heq, List.cons_prefix_cons] at h
      obtain ⟨rfl, h⟩ := h
      have hd := hw.1 d List.mem_cons_self
      rcases hcases with ⟨-, rfl, rfl⟩ | ⟨hfar | hk, -⟩ | ⟨rfl, rfl⟩
      · obtain ⟨v, hv, rfl⟩ := ih hw.tail h
        exact ⟨c :: v, List.cons_prefix_cons.2 ⟨rfl, hv⟩, rfl⟩
      · omega
      · exact absurd hk hd.2
      -- behind the `i` there is a mark that is in no word of ASCII
      · rw [hw.tail.eq_nil_of_dotted h] at hw
        exact absurd rfl hw.2

theorem exists_infix (hw : Native w) (h : w <:+: lowerFrom before cs) :
    ∃ v, v <:+: cs ∧ v.map Char.toLower = w := by
  induction cs generalizing before with
  | nil => exact ⟨[], List.nil_infix, (List.infix_nil.1 h).symm⟩
  | cons c cs ih =>
    have hprefix : w <+: lowerFrom before (c :: cs) → ∃ v, v <:+: c :: cs ∧
        v.map Char.toLower = w := fun hp =>
      (hw.exists_prefix hp).imp fun v hv => ⟨hv.1.isInfix, hv.2⟩
    have hrest : w <:+: lowerFrom (c :: before) cs → ∃ v, v <:+: c :: cs ∧
        v.map Char.toLower = w := fun hr =>
      (ih hr).imp fun v hv => ⟨hv.1.trans (List.suffix_cons c cs).isInfix, hv.2⟩
    obtain ⟨e, es, heq, hcases⟩ := lowerFrom_cons_cases before c cs
    rw [heq] at h hprefix
    rcases List.infix_cons_iff.1 h with h | h
    · exact hprefix h
    · rcases hcases with ⟨-, -, rfl⟩ | ⟨-, rfl⟩ | ⟨-, rfl⟩
      · exact hrest h
      · exact hrest h
      · rcases List.infix_cons_iff.1 h with h | h
        · exact ⟨[], List.nil_infix, (hw.eq_nil_of_dotted h).symm⟩
        · exact hrest h

end Native

theorem prefix_lowerFrom {v : List Char} (hv : ∀ c ∈ v, c.toNat < 128) (h : v <+: cs) :
    v.map Char.toLower <+: lowerFrom before cs := by
  induction v generalizing before cs with
  | nil => exact List.nil_prefix
  | cons c v ih =>
    obtain ⟨rest, rfl⟩ := h
    have hc := hv c List.mem_cons_self
    have hσ : c ≠ 'Σ' := by
      rintro rfl
      exact absurd hc (by decide)
    rw [List.cons_append, lowerFrom, if_neg hσ, lowerChar_ascii hc]
    exact List.cons_prefix_cons.2 ⟨rfl, ih (fun d hd => hv d (List.mem_cons_of_mem _ hd))
      (List.prefix_append v rest)⟩

theorem infix_lowerFrom {v : List Char} (hv : ∀ c ∈ v, c.toNat < 128) (h : v <:+: cs) :
    v.map Char.toLower <:+: lowerFrom before cs := by
  induction cs generalizing before with
  | nil =>
    rw [List.infix_nil.1 h]
    exact List.nil_infix
  | cons c cs ih =>
    rcases List.infix_cons_iff.1 h with h | h
    · exact (prefix_lowerFrom hv h).isInfix
    · rw [lowerFrom]
      exact (ih h).trans (List.suffix_append _ _).isInfix

/-- A word is in the lowercase form of a text when it is in the text in some letter case. -/
theorem infix_lowercase_iff (hw : Native w) : w <:+: (lowercase s).toList ↔
    ∃ v, v <:+: s.toList ∧ v.map Char.toLower = w := by
  rw [toList_lowercase]
  constructor
  · exact hw.exists_infix
  · rintro ⟨v, hv, rfl⟩
    refine infix_lowerFrom (fun c hc => toNat_lt_of_toLower ?_) hv
    exact (hw.1 _ (List.mem_map_of_mem hc)).1

end CloudEvents.Text
