import CloudEvents.Proofs.Binary.Precedence
import CloudEvents.Proofs.Text.Decimal
import Mathlib.Data.Nat.Digits.Defs

/-! Texts that are read as lengths, and the number that each denotes. -/
namespace CloudEvents.Body

open Text
open Binary (encode longLength)

variable {s : String} {cs : List Char} {n : Nat} {result : Except Fault Nat}

/-- The number that decimal digits denote, the last of them counting ones. -/
def denoted (cs : List Char) : Nat :=
  Nat.ofDigits 10 (cs.reverse.map fun c => c.toNat - '0'.toNat)

/-- Holds of a text that is these digits, at least one, with blanks around them. -/
structure Spells (s : String) (cs : List Char) : Prop where
  ne_nil : cs ≠ []
  digit : ∀ c ∈ cs, c ∈ digits
  around : ∃ before after, (∀ c ∈ before ++ after, isBlank c) ∧ s.toList = before ++ cs ++ after

/-- What is said to come of a text that declares a length. -/
inductive Announces (s : String) : Except Fault Nat → Prop
  | number {cs : List Char} (h : Spells s cs) : Announces s (.ok (denoted cs))
  | malformed (h : ¬ ∃ cs, Spells s cs) : Announces s (.error (.malformedLength s))

theorem ofDecimal_eq_denoted (cs : List Char) : ofDecimal cs = denoted cs := by
  induction cs using List.reverseRecOn with
  | nil => rfl
  | append_singleton cs c ih =>
    have hone : ofDecimal [c] = c.toNat - '0'.toNat := by simp [ofDecimal, Nat.ofDigitChars_cons]
    rw [ofDecimal_append, ih, hone, denoted, denoted, List.reverse_concat, List.map_cons,
      Nat.ofDigits_cons]
    simp [Nat.add_comm]

theorem isNumeral_iff : isNumeral s ↔ s.toList ≠ [] ∧ ∀ c ∈ s.toList, c ∈ digits := by
  have hempty : s = "" ↔ s.toList = [] := by rw [← String.toList_inj, String.toList_empty]
  simp only [isNumeral, Bool.and_eq_true, bne_iff_ne, ne_eq, hempty, List.all_eq_true,
    mem_digits_iff]

/-- Digits are no blanks, so the digits of a text are what is left of it without its blanks. -/
theorem spells_iff : Spells s cs ↔ isNumeral (trim s) ∧ (trim s).toList = cs := by
  constructor
  · rintro ⟨hne, hdigit, before, after, hblank, hs⟩
    have htrim : (trim s).toList = cs := by
      rw [toList_trim, hs]
      exact trimChars_around hblank fun c hc => isBlank_of_isDigit (mem_digits_iff.1 (hdigit c hc))
    rw [isNumeral_iff, htrim]
    exact ⟨⟨hne, hdigit⟩, rfl⟩
  · rintro ⟨hn, rfl⟩
    obtain ⟨hne, hdigit⟩ := isNumeral_iff.1 hn
    obtain ⟨before, after, hblank, -, hs⟩ := exists_bare s.toList
    rw [← toList_trim] at hs
    exact ⟨hne, hdigit, before, after, hblank, hs⟩

theorem parseLength_of_spells (h : Spells s cs) : parseLength s =
    if Fault.maxDigits < cs.length then .error (.digitLimit cs.length) else .ok (denoted cs) := by
  obtain ⟨hn, rfl⟩ := spells_iff.1 h
  rw [parseLength_eq, if_pos hn, ofDecimal_eq_denoted, String.length_toList]

theorem parseLength_of_not_spells (h : ¬ ∃ cs, Spells s cs) :
    parseLength s = .error (.malformedLength s) := by
  rw [parseLength_eq, if_neg fun hn => h ⟨_, spells_iff.2 ⟨hn, rfl⟩⟩]

theorem exists_announced (s : String) : ∃ result, Announces s result := by
  by_cases h : ∃ cs, Spells s cs
  · obtain ⟨cs, hcs⟩ := h
    exact ⟨_, .number hcs⟩
  · exact ⟨_, .malformed h⟩

theorem parseLength_of_announces (ho : ¬ ∃ cs, Spells s cs ∧ Fault.maxDigits < cs.length)
    (h : Announces s result) : parseLength s = result := by
  cases h with
  | number h =>
    rw [parseLength_of_spells h, if_neg fun hd => ho ⟨_, h, hd⟩]
  | malformed h => exact parseLength_of_not_spells h

theorem parseLength_eq_digitLimit_iff : parseLength s = .error (.digitLimit n) ↔
    ∃ cs, Spells s cs ∧ cs.length = n ∧ Fault.maxDigits < n := by
  constructor
  · intro hp
    by_cases h : ∃ cs, Spells s cs
    · obtain ⟨cs, hcs⟩ := h
      rw [parseLength_of_spells hcs] at hp
      split at hp
      next hd =>
        cases hp
        exact ⟨cs, hcs, rfl, hd⟩
      next => cases hp
    · rw [parseLength_of_not_spells h] at hp
      cases hp
  · rintro ⟨cs, hcs, rfl, hd⟩
    rw [parseLength_of_spells hcs, if_pos hd]

/-- What is announced of a text comes of it, unless it has very many digits. -/
theorem announces_iff : (∀ result, Announces s result ↔ parseLength s = result) ↔
    ¬ ∃ cs, Spells s cs ∧ Fault.maxDigits < cs.length := by
  constructor
  · rintro hall ⟨cs, hcs, hd⟩
    have hsaid := (hall _).1 (.number hcs)
    rw [parseLength_of_spells hcs, if_pos hd] at hsaid
    cases hsaid
  · intro ho result
    refine ⟨parseLength_of_announces ho, fun hp => ?_⟩
    obtain ⟨other, hother⟩ := exists_announced s
    rwa [← hp, parseLength_of_announces ho hother]

theorem spells_signed (n : Nat) : Spells (signed n) (decimal 1 n) :=
  spells_iff.2 ⟨by rw [trim_signed]; exact isNumeral_signed n,
    by rw [trim_signed, signed_natCast, String.toList_ofList]⟩

theorem parseLength_signed_iff :
    parseLength (signed n) = .ok n ↔ n < 10 ^ Fault.maxDigits := by
  refine ⟨fun hp => ?_, parseLength_signed⟩
  rw [parseLength_of_spells (spells_signed n)] at hp
  split at hp
  next => cases hp
  next hd =>
    rw [length_decimal, Nat.not_lt] at hd
    exact (Nat.length_toDigits_le_iff (by decide) (by decide)).1 (le_of_max_le_right hd)

/-- A text is read as a length exactly if it is decimal digits with blanks around them, and then as
the number that these denote; every other text is malformed. The one exception are digits of more
than are converted. The length under which an event is written is the number of its bytes. -/
theorem parseLength_announced (s : String) (e : Event) (bytes : List UInt8) :
    ((∀ result, Announces s result ↔ parseLength s = result) ↔
      ¬ ∃ cs, Spells s cs ∧ Fault.maxDigits < cs.length) ∧
    (∀ n, parseLength s = .error (.digitLimit n) ↔
      ∃ cs, Spells s cs ∧ cs.length = n ∧ Fault.maxDigits < n) ∧
    ∃ r text, (encode { e with data := some bytes } : EStateM Fault BufferedResponse Unit).run {} =
        .ok () r ∧
      (OrderedMap.ofList r.headers).get? Attribute.contentLength = some (.text text) ∧
      (parseLength text = .ok bytes.length ↔ bytes.length < 10 ^ Fault.maxDigits) := by
  have hsent : (OrderedMap.ofList (Binary.rendered { e with data := some bytes }).headers).get?
      Attribute.contentLength = some (.text (signed bytes.length)) :=
    (congrArg (OrderedMap.get? · _) (Binary.sent_of_some rfl)).trans (OrderedMap.get?_insert_self _)
  exact ⟨announces_iff, fun _ => parseLength_eq_digitLimit_iff, _, _, Binary.run_encode _, hsent,
    parseLength_signed_iff⟩

/-- One digit more than are converted denote a number like any other, and yet the text is neither
read as that number nor called malformed. -/
theorem announces_otherwise_long :
    Announces longLength (.ok (denoted longLength.toList)) ∧
    parseLength longLength = .error (.digitLimit 4301) ∧
    (Fault.digitLimit 4301).kind ≠ .malformedLength := by
  refine ⟨.number (spells_iff.2 ⟨?_, ?_⟩), Binary.parseLength_longLength, by decide⟩
  · rw [Binary.trim_longLength]
    exact Binary.isNumeral_longLength
  · rw [Binary.trim_longLength]

end CloudEvents.Body
