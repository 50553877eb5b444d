import CloudEvents.Text.Digits
import CloudEvents.Text.Search
import CloudEvents.Trace.Context
import Mathlib.Algebra.Group.Nat.Defs

/-! Hexadecimal fields, and a context written as the parent of a trace and read again. -/
namespace CloudEvents.Text

variable {c : Char} {width n : Nat}

theorem hexValue_digitChar (h : n < 16) : hexValue n.digitChar = n := by
  have hall : ∀ k < 16, hexValue k.digitChar = k := by decide
  exact hall n h

theorem isHexDigit_digitChar (h : n < 16) : isHexDigit n.digitChar := by
  have hall : ∀ k < 16, isHexDigit k.digitChar := by decide
  exact hall n h

theorem ofHex_concat (cs : List Char) (c : Char) :
    ofHex (cs ++ [c]) = 16 * ofHex cs + hexValue c := by
  simp [ofHex]

theorem ofHex_toDigits (n : Nat) : ofHex (Nat.toDigits 16 n) = n := by
  induction n using Nat.strongRecOn with
  | _ n ih =>
    by_cases hn : n < 16
    · rw [Nat.toDigits_of_lt_base hn]
      simp [ofHex, hexValue_digitChar hn]
    · have hlt : n / 16 < n := Nat.div_lt_self (by omega) (by decide)
      have hmod : n % 16 < 16 := Nat.mod_lt n (by decide)
      rw [Nat.toDigits_of_base_le (by decide) (by omega), ofHex_concat, ih _ hlt,
        hexValue_digitChar hmod, Nat.div_add_mod]

theorem ofHex_hex (width n : Nat) : ofHex (hex width n) = n := by
  have hzeros : ∀ k (cs : List Char), ofHex (List.replicate k '0' ++ cs) = ofHex cs := by
    intro k cs
    induction k with
    | zero => rfl
    | succ k ih => exact ih
  rw [hex, padLeft, hzeros, ofHex_toDigits]

theorem isHexDigit_of_mem_toDigits (h : c ∈ Nat.toDigits 16 n) : isHexDigit c := by
  induction n using Nat.strongRecOn with
  | _ n ih =>
    by_cases hn : n < 16
    · rw [Nat.toDigits_of_lt_base hn, List.mem_singleton] at h
      rw [h]
      exact isHexDigit_digitChar hn
    · rw [Nat.toDigits_of_base_le (by decide) (by omega), List.mem_append,
        List.mem_singleton] at h
      rcases h with h | rfl
      · exact ih _ (Nat.div_lt_self (by omega) (by decide)) h
      · exact isHexDigit_digitChar (Nat.mod_lt n (by decide))

theorem all_isHexDigit_hex (width n : Nat) : (hex width n).all isHexDigit := by
  rw [List.all_eq_true]
  intro c hc
  rcases List.mem_append.1 hc with h | h
  · rw [List.eq_of_mem_replicate h]
    rfl
  · exact isHexDigit_of_mem_toDigits h

theorem length_hex_of_lt (hw : 0 < width) (h : n < 16 ^ width) : (hex width n).length = width := by
  have hdigits := (Nat.length_toDigits_le_iff (by decide) hw).2 h
  simp only [hex, padLeft, List.length_append, List.length_replicate]
  omega

/-- The digits of a number that fits a field are taken from the front of a text. -/
theorem field_hex (hw : 0 < width) (h : n < 16 ^ width) (rest : List Char) :
    field width isHexDigit (hex width n ++ rest) = some (hex width n, rest) :=
  field_eq_some_iff.2 ⟨rfl, length_hex_of_lt hw h, all_isHexDigit_hex width n⟩

end CloudEvents.Text

namespace CloudEvents.TraceParent

open Text

variable {c : SpanContext} {width n : Nat}

theorem toList_write (c : SpanContext) : (write c).toList = '0' :: '0' :: '-' ::
    (hex 32 c.traceId ++ '-' :: (hex 16 c.spanId ++ '-' :: hex 2 c.flags)) := by
  simp [write]

theorem hexField_hex (hw : 0 < width) (h : n < 16 ^ width) (rest : List Char) :
    hexField width (hex width n ++ rest) = some (hex width n, rest) :=
  field_hex hw h rest

/-- The first version is not padded in front, and is taken whole. -/
theorem hexField_version (rest : List Char) :
    hexField 2 (('0' :: '0' :: rest).dropWhile TraceState.isPad) = some (['0', '0'], rest) :=
  field_hex (n := 0) (by decide) (by decide) rest

/-- The written context is read again, as that of a span seen elsewhere. -/
theorem read_write (h : c.Valid) (hf : c.flags ≤ 255) :
    read (write c) = some ⟨c.traceId, c.spanId, c.flags, true, []⟩ := by
  obtain ⟨ht, htmax, hs, hsmax⟩ := h
  have htrace : c.traceId < 16 ^ 32 := Nat.lt_succ_of_le htmax
  have hspan : c.spanId < 16 ^ 16 := Nat.lt_succ_of_le hsmax
  have hflags : c.flags < 16 ^ 2 := Nat.lt_succ_of_le hf
  have hend : hexField 2 (hex 2 c.flags) = some (hex 2 c.flags, []) := by
    have hfield := hexField_hex (by decide) hflags []
    rwa [List.append_nil] at hfield
  have hrest : rest [] = some false := rfl
  rw [read, toList_write, hexField_version]
  simp only [bind, Option.bind, mark_cons, hexField_hex (by decide) htrace,
    hexField_hex (by decide) hspan, hend, hrest, ofHex_hex]
  simp [Nat.pos_iff_ne_zero.1 ht, Nat.pos_iff_ne_zero.1 hs]

end CloudEvents.TraceParent
