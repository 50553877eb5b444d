import CloudEvents.Body
import CloudEvents.Proofs.Text.Decimal

/-! A length that is written is the length that is declared, and the body is read whole. -/
namespace CloudEvents

open Text

namespace Body

variable {n : Nat} {bytes : List UInt8} {declared : String} {f : Fault} {s t : BodyStream}
  {chunks : List (List UInt8)}

theorem signed_natCast (n : Nat) : signed n = String.ofList (decimal 1 n) := rfl

theorem trim_signed (n : Nat) : trim (signed n) = signed n := by
  apply trim_eq_self
  intro c hc
  rw [signed_natCast, String.toList_ofList] at hc
  exact isBlank_of_isDigit (isDigit_of_mem_decimal hc)

theorem isNumeral_signed (n : Nat) : isNumeral (signed n) := by
  simp only [isNumeral, signed_natCast, Bool.and_eq_true, bne_iff_ne, String.toList_ofList,
    List.all_eq_true]
  refine ⟨?_, fun c hc => isDigit_of_mem_decimal hc⟩
  intro h
  have := congrArg String.toList h
  rw [String.toList_ofList] at this
  exact decimal_ne_nil this

/-- Only a number of very many digits is refused. -/
theorem parseLength_signed (h : n < 10 ^ Fault.maxDigits) : parseLength (signed n) = .ok n := by
  have hlen : (signed n).length ≤ Fault.maxDigits := by
    have := (Nat.length_toDigits_le_iff (by decide) (by decide)).2 h
    rw [signed_natCast, String.length_ofList, length_decimal]
    exact Nat.max_le.2 ⟨by decide, this⟩
  simp only [parseLength, trim_signed, isNumeral_signed, Nat.not_lt.2 hlen, Bool.not_true,
    Bool.false_eq_true, if_false]
  rw [signed_natCast, String.toList_ofList, ofDecimal_decimal]

theorem lt_of_le_maxIndex (h : n ≤ Fault.maxIndex) : n < 10 ^ Fault.maxDigits :=
  calc n < 10 ^ 19 := Nat.lt_of_le_of_lt h (by decide)
    _ ≤ 10 ^ Fault.maxDigits := Nat.pow_le_pow_right (by decide) (by decide)

/-- Reads a body of a length that is known. -/
def readCounted : Nat → EStateM Fault BodyStream (List UInt8)
  | 0 => pure []
  | n => do
    let chunk ← (BodyStream.read n).adaptExcept readFault
    return chunk.getD []

theorem read_text (h : parseLength declared = .ok n) :
    read (.text declared) = readCounted n := by
  delta read
  dsimp only
  rw [declaredLength_text, h]
  cases n <;> rfl

theorem read_text_of_error (h : parseLength declared = .error f) :
    read (.text declared) = throw f := by
  delta read
  dsimp only
  rw [declaredLength_text, h]

theorem run_readCounted (hn : n ≠ 0) (s : BodyStream) : (readCounted n).run s =
    match (BodyStream.read n).run s with
    | .ok chunk t => .ok (chunk.getD []) t
    | .error f t => .error (readFault f) t := by
  cases n with
  | zero => exact absurd rfl hn
  | succ k =>
    simp only [readCounted, EStateM.run_bind, EStateM.run_adaptExcept]
    cases (BodyStream.read (k + 1)).run s <;> rfl

theorem run_read_memory (h : n ≤ Fault.maxIndex) : (BodyStream.read n).run (.ofBytes bytes) =
    .ok (some (bytes.take n)) ⟨.memory (bytes.drop n) (min n bytes.length), #[n]⟩ := by
  simp only [BodyStream.read, BodyStream.ofBytes, EStateM.run, if_neg (Nat.not_lt.2 h)]
  simp

/-- Under its own length a body in memory is read to the last byte. -/
theorem run_read_signed (h : bytes.length ≤ Fault.maxIndex) :
    ∃ rest, (read (.text (signed bytes.length))).run (.ofBytes bytes) = .ok bytes rest := by
  rw [read_text (parseLength_signed (lt_of_le_maxIndex h))]
  by_cases h0 : bytes.length = 0
  · rw [h0, List.eq_nil_of_length_eq_zero h0]
    exact ⟨_, rfl⟩
  · refine ⟨⟨.memory [] bytes.length, #[bytes.length]⟩, ?_⟩
    simp [run_readCounted h0, run_read_memory h]

theorem drain_of_error (h : (BodyStream.read chunkSize).run s = .error f t) :
    drain chunks s = .error (readFault f) t := by
  rw [drain]
  split <;> simp_all

theorem drain_of_chunk {b : UInt8} {bs : List UInt8}
    (h : (BodyStream.read chunkSize).run s = .ok (some (b :: bs)) t) :
    drain chunks s = drain ((b :: bs) :: chunks) t := by
  rw [drain]
  split <;> simp_all

theorem drain_of_end {chunk : Option (List UInt8)}
    (h : (BodyStream.read chunkSize).run s = .ok chunk t) (hc : chunk.getD [] = []) :
    drain chunks s = .ok chunks.reverse.flatten t := by
  rcases chunk with _ | _ | ⟨b, bs⟩
  · rw [drain]
    split <;> simp_all
  · rw [drain]
    split <;> simp_all
  · cases hc

/-- Without a length the body is read until there is no more. -/
theorem run_read_null_nil :
    ∃ rest, (read .null).run (.ofBytes []) = .ok [] rest :=
  ⟨_, drain_of_end (run_read_memory (by decide)) rfl⟩

end Body

end CloudEvents
