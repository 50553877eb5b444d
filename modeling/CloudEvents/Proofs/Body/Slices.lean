import CloudEvents.Proofs.Body.Consumed
import CloudEvents.Proofs.Body.Drained

/-! Several bodies read one after another from the same payload in memory. -/
namespace CloudEvents.Body

open Fault

variable {payload : List UInt8} {p q : Nat} {length : Option String}
  {lengths : List (Option String)} {result : Except Fault (List UInt8)}
  {results : List (Except Fault (List UInt8))} {reads made : Array Nat}

/-- Reads one body after another, whatever comes of each. -/
def attemptAll : List (Option String) → BodyStream → List (Except Fault (List UInt8)) × BodyStream
  | [], s => ([], s)
  | length :: r, s =>
    let first := attempt length s
    let others := attemptAll r first.2
    (first.1 :: others.1, others.2)

/-- A payload in memory, open at a position. -/
def inMemory (payload : List UInt8) (position : Nat) (reads : Array Nat) : BodyStream :=
  ⟨.memory (payload.drop position) position, reads⟩

/-- What a body is that begins at position `p` of a payload, where it ends, and which reads it
takes. -/
inductive Slice (payload : List UInt8) (p : Nat) :
    Option String → Except Fault (List UInt8) → Nat → Array Nat → Prop
  | counted {text : String} {n : Nat} (h : parseLength text = .ok n) :
      Slice payload p (some text) (.ok ((payload.drop p).take n)) (p + min n (payload.length - p))
        (if n = 0 then #[] else #[n])
  | rejected {text : String} {f : Fault} (h : parseLength text = .error f) :
      Slice payload p (some text) (.error f) p #[]
  | rest : Slice payload p none (.ok (payload.drop p)) (p + (payload.length - p))
      (Array.replicate ((payload.length - p) ⌈/⌉ 65536 + 1) 65536)

/-- Slices from position `p` to position `q`, each of which begins where the one before it ended. -/
inductive Slices (payload : List UInt8) : Nat → Array Nat → List (Option String) →
    List (Except Fault (List UInt8)) → Nat → Array Nat → Prop
  | nil {p : Nat} {reads : Array Nat} : Slices payload p reads [] [] p reads
  | cons {p q r : Nat} {reads made after : Array Nat} {length : Option String}
      {lengths : List (Option String)} {result : Except Fault (List UInt8)}
      {results : List (Except Fault (List UInt8))} (head : Slice payload p length result q made)
      (tail : Slices payload q (reads ++ made) lengths results r after) :
      Slices payload p reads (length :: lengths) (result :: results) r after

/-- The bytes of a body, if it was read. -/
def delivered : Except Fault (List UInt8) → List UInt8
  | .ok bytes => bytes
  | .error _ => []

theorem delivered_of_slice (h : Slice payload p length result q made) :
    p ≤ q ∧ delivered result = (payload.drop p).take (q - p) := by
  cases h with
  | counted h =>
    refine ⟨Nat.le_add_right .., ?_⟩
    rw [Nat.add_sub_cancel_left, ← List.length_drop]
    exact List.take_eq_take_min
  | rejected h => simp [delivered]
  | rest =>
    refine ⟨Nat.le_add_right .., ?_⟩
    rw [Nat.add_sub_cancel_left, ← List.length_drop, List.take_length]
    rfl

/-- Together the slices are what lies between the first position and the last. -/
theorem delivered_of_slices {after : Array Nat}
    (h : Slices payload p reads lengths results q after) :
    p ≤ q ∧ (results.map delivered).flatten = (payload.drop p).take (q - p) := by
  induction h with
  | nil => simp
  | @cons p q r _ _ _ _ _ _ _ head tail ih =>
    obtain ⟨hpq, hhead⟩ := delivered_of_slice head
    obtain ⟨hqr, htail⟩ := ih
    refine ⟨hpq.trans hqr, ?_⟩
    have hsplit : r - p = (q - p) + (r - q) := by omega
    have hnext : payload.drop q = (payload.drop p).drop (q - p) := by
      rw [List.drop_drop, Nat.add_sub_cancel' hpq]
    rw [List.map_cons, List.flatten_cons, hhead, htail, hsplit, hnext, List.take_add]

theorem run_read_memory_at {n : Nat} (h : n ≤ maxIndex) (payload : List UInt8) (p : Nat)
    (reads : Array Nat) : (BodyStream.read n).run (inMemory payload p reads) =
      .ok (some ((payload.drop p).take n))
        (inMemory payload (p + min n (payload.length - p)) (reads.push n)) := by
  have hrest : (payload.drop p).drop n = payload.drop (p + min n (payload.length - p)) := by
    rw [List.drop_drop]
    by_cases hn : n ≤ payload.length - p
    · rw [Nat.min_eq_left hn]
    · rw [List.drop_eq_nil_of_le (by omega), List.drop_eq_nil_of_le (by omega)]
  simp only [BodyStream.read, EStateM.run, inMemory, if_neg (Nat.not_lt.2 h), List.length_drop,
    hrest]

/-- A body read from a payload in memory is its next slice. -/
theorem slice_attempt (hfit : ∀ text ∈ length, ∀ n, parseLength text = .ok n → n ≤ maxIndex)
    (payload : List UInt8) (p : Nat) (reads : Array Nat) :
    ∃ result q made, Slice payload p length result q made ∧
      attempt length (inMemory payload p reads) = (result, inMemory payload q (reads ++ made)) := by
  cases length with
  | none =>
    refine ⟨_, _, _, .rest, ?_⟩
    have hdrain := drain_steady (steady_memory p) (by decide) 0 (payload.drop p) reads []
    have hnil : payload.drop (p + (payload.length - p)) = [] := List.drop_eq_nil_of_le (by omega)
    simp only [List.length_drop, Nat.zero_add, Nat.add_zero] at hdrain
    simp only [attempt, Option.map_none, Option.getD_none, run_read_null, inMemory, hdrain, hnil]
    rfl
  | some text =>
    cases hparse : parseLength text with
    | error f => exact ⟨_, _, _, .rejected hparse, attempt_of_error hparse⟩
    | ok n =>
      refine ⟨_, _, _, .counted hparse, ?_⟩
      simp only [attempt, Option.map_some, Option.getD_some, read_text hparse]
      by_cases h0 : n = 0
      · subst h0
        simp [readCounted, outcome]
      · rw [run_readCounted h0, run_read_memory_at (hfit text rfl n hparse)]
        simp [h0, outcome]

/-- Bodies read one after another from a payload in memory are consecutive slices of it, so that
together they are what was taken of it. -/
theorem attemptAll_slices
    (hfit : ∀ text, some text ∈ lengths → ∀ n, parseLength text = .ok n → n ≤ maxIndex)
    (payload : List UInt8) (start : Nat) (reads : Array Nat) :
    ∃ results finish after, Slices payload start reads lengths results finish after ∧
      attemptAll lengths (inMemory payload start reads) =
        (results, inMemory payload finish after) ∧
      start ≤ finish ∧
      (results.map delivered).flatten = (payload.drop start).take (finish - start) := by
  have hrun : ∃ results finish after, Slices payload start reads lengths results finish after ∧
      attemptAll lengths (inMemory payload start reads) =
        (results, inMemory payload finish after) := by
    induction lengths generalizing start reads with
    | nil => exact ⟨[], start, reads, .nil, rfl⟩
    | cons length lengths ih =>
      have hhead : ∀ text ∈ length, ∀ n, parseLength text = .ok n → n ≤ maxIndex :=
        fun text ht => hfit text (List.mem_cons.2 (Or.inl ht.symm))
      obtain ⟨result, q, made, hslice, hattempt⟩ := slice_attempt hhead payload start reads
      obtain ⟨results, finish, after, hslices, hall⟩ :=
        ih (fun text ht => hfit text (List.mem_cons_of_mem _ ht)) q (reads ++ made)
      refine ⟨result :: results, finish, after, .cons hslice hslices, ?_⟩
      simp only [attemptAll, hattempt, hall]
  obtain ⟨results, finish, after, hslices, hall⟩ := hrun
  exact ⟨results, finish, after, hslices, hall, delivered_of_slices hslices⟩

/-- Two bytes, no number, nothing, more than there is, and all that is left. -/
def mixedLengths : List (Option String) := [some " 02", some "-1", some "0", some "9", none]

theorem attemptAll_slices_mixed :
    (∀ text, some text ∈ mixedLengths → ∀ n, parseLength text = .ok n → n ≤ maxIndex) ∧
    ∃ results finish after, Slices [1, 2, 3, 4, 5] 1 #[] mixedLengths results finish after ∧
      attemptAll mixedLengths (inMemory [1, 2, 3, 4, 5] 1 #[]) =
        (results, inMemory [1, 2, 3, 4, 5] finish after) ∧
      (results.map delivered).flatten = ([1, 2, 3, 4, 5].drop 1).take (finish - 1) ∧
      results = [.ok [2, 3], .error (.malformedLength "-1"), .ok [], .ok [4, 5], .ok []] := by
  have hfit : ∀ text, some text ∈ mixedLengths → ∀ n, parseLength text = .ok n →
      n ≤ maxIndex := by
    have hall : (mixedLengths.filterMap id).all fun text =>
        (parseLength text).toOption.all fun n => n ≤ maxIndex := by
      decide +kernel
    intro text ht n hn
    have := List.all_eq_true.1 hall text (List.mem_filterMap.2 ⟨_, ht, rfl⟩)
    rw [hn] at this
    simpa [Except.toOption] using this
  obtain ⟨results, finish, after, hslices, hrun, -, hflatten⟩ :=
    attemptAll_slices hfit [1, 2, 3, 4, 5] 1 #[]
  have hresults : (attemptAll mixedLengths (inMemory [1, 2, 3, 4, 5] 1 #[])).1 =
      [.ok [2, 3], .error (.malformedLength "-1"), .ok [], .ok [4, 5], .ok []] := by
    decide +kernel
  rw [hrun] at hresults
  exact ⟨hfit, results, finish, after, hslices, hrun, hflatten, hresults⟩

end CloudEvents.Body
