import CloudEvents.Proofs.Body.Declared

/-! What reading a body does to its stream, read by read. -/
namespace CloudEvents.Body

variable {count : Option Nat} {length : Option String} {f g : Fault} {s t : BodyStream}
  {result : Except Fault (List UInt8)}

/-- What a run came to, and the stream after it. -/
def outcome : EStateM.Result Fault BodyStream (List UInt8) →
    Except Fault (List UInt8) × BodyStream
  | .ok bytes t => (.ok bytes, t)
  | .error f t => (.error f, t)

/-- What comes of reading a body whose length is declared by a text or not at all, and the stream
after it. -/
def attempt (length : Option String) (s : BodyStream) : Except Fault (List UInt8) × BodyStream :=
  outcome ((read ((length.map .text).getD .null)).run s)

/-- The length that a text declares, or none without one. -/
inductive Declares : Option String → Option Nat → Prop
  | absent : Declares none none
  | counted {text : String} {n : Nat} (h : parseLength text = .ok n) :
      Declares (some text) (some n)

/-- A fault of moving bytes is reported as the reason why the body was not read, and any other as it
is. -/
inductive Reported : Fault → Fault → Prop
  | unread {f : Fault} (h : f.kind.belongsTo .anyIo) : Reported f (.bodyUnread f)
  | passed {f : Fault} (h : ¬ f.kind.belongsTo .anyIo) : Reported f f

theorem reported_iff : Reported f g ↔ g = readFault f := by
  constructor
  · rintro (h | h)
    · exact (if_pos h).symm
    · exact (if_neg h).symm
  · rintro rfl
    by_cases h : f.kind.belongsTo .anyIo
    · rw [readFault, if_pos h]
      exact .unread h
    · rw [readFault, if_neg h]
      exact .passed h

/-- Which reads a body of a length, or of none, is read by, and what they give together. -/
inductive Consumes :
    Option Nat → BodyStream → Except Fault (List UInt8) → BodyStream → Prop
  | nothing {s : BodyStream} : Consumes (some 0) s (.ok []) s
  | counted {n : Nat} {s t : BodyStream} {chunk : Option (List UInt8)} (hn : 0 < n)
      (hr : (BodyStream.read n).run s = .ok chunk t) : Consumes (some n) s (.ok (chunk.getD [])) t
  | countedFault {n : Nat} {s t : BodyStream} {f g : Fault} (hn : 0 < n)
      (hr : (BodyStream.read n).run s = .error f t) (hf : Reported f g) :
      Consumes (some n) s (.error g) t
  | chunk {s t u : BodyStream} {bytes : List UInt8} {result : Except Fault (List UInt8)}
      (hr : (BodyStream.read 65536).run s = .ok (some bytes) t) (hb : bytes ≠ [])
      (hc : Consumes none t result u) : Consumes none s (result.map (bytes ++ ·)) u
  | finished {s t : BodyStream} {chunk : Option (List UInt8)}
      (hr : (BodyStream.read 65536).run s = .ok chunk t) (hb : chunk.getD [] = []) :
      Consumes none s (.ok []) t
  | fault {s t : BodyStream} {f g : Fault} (hr : (BodyStream.read 65536).run s = .error f t)
      (hf : Reported f g) : Consumes none s (.error g) t

/-- Reading to the end puts what it gives behind the chunks that were read before. -/
theorem outcome_drain (h : Consumes none s result t) (chunks : List (List UInt8)) :
    outcome (drain chunks s) = (result.map (chunks.reverse.flatten ++ ·), t) := by
  generalize hcount : (none : Option Nat) = count at h
  induction h generalizing chunks with
  | nothing => cases hcount
  | counted => cases hcount
  | countedFault => cases hcount
  | @chunk s t u bytes result hr hb hc ih =>
    obtain ⟨b, bs, rfl⟩ := List.exists_cons_of_ne_nil hb
    rw [drain_of_chunk hr, ih _ hcount]
    cases result <;> simp [Except.map]
  | finished hr hb => simp [drain_of_end hr hb, outcome, Except.map]
  | fault hr hf =>
    rw [drain_of_error hr, reported_iff.1 hf]
    rfl

theorem exists_consumes_none (s : BodyStream) : ∃ result t, Consumes none s result t := by
  -- `drain` has a case for each rule, and calls itself where the rule goes on
  induction ([] : List (List UInt8)), s using drain.induct with
  | case1 chunks s f t hr => exact ⟨_, t, .fault hr (reported_iff.2 rfl)⟩
  | case2 chunks s b bs t hr ih =>
    obtain ⟨result, u, hc⟩ := ih
    exact ⟨_, u, .chunk hr (List.cons_ne_nil b bs) hc⟩
  | case3 chunks s chunk t hne hr =>
    refine ⟨_, t, .finished hr ?_⟩
    rcases chunk with _ | _ | ⟨b, bs⟩
    · rfl
    · rfl
    · exact absurd rfl (hne b bs)

theorem exists_consumes (count : Option Nat) (s : BodyStream) :
    ∃ result t, Consumes count s result t := by
  rcases count with _ | _ | n
  · exact exists_consumes_none s
  · exact ⟨_, _, .nothing⟩
  · cases hr : (BodyStream.read (n + 1)).run s with
    | ok chunk t => exact ⟨_, t, .counted n.succ_pos hr⟩
    | error f t => exact ⟨_, t, .countedFault n.succ_pos hr (reported_iff.2 rfl)⟩

theorem attempt_of_error {text : String} (h : parseLength text = .error f) :
    attempt (some text) s = (.error f, s) := by
  simp only [attempt, Option.map_some, Option.getD_some, read_text_of_error h]
  rfl

theorem attempt_of_consumes (hl : Declares length count) (h : Consumes count s result t) :
    attempt length s = (result, t) := by
  cases hl with
  | absent =>
    have hdrain := outcome_drain h []
    cases result <;> exact hdrain
  | counted hparse =>
    simp only [attempt, Option.map_some, Option.getD_some, read_text hparse]
    cases h with
    | nothing => rfl
    | counted hn hr =>
      rw [run_readCounted hn.ne', hr]
      rfl
    | countedFault hn hr hf =>
      rw [run_readCounted hn.ne', hr, reported_iff.1 hf]
      rfl

/-- A body is read by the reads that the rules say, and comes to what they say. -/
theorem consumes_iff (hl : Declares length count) :
    Consumes count s result t ↔ attempt length s = (result, t) := by
  constructor
  · exact attempt_of_consumes hl
  · intro ha
    obtain ⟨result', t', hc⟩ := exists_consumes count s
    have heq := ha.symm.trans (attempt_of_consumes hl hc)
    cases heq
    exact hc

end CloudEvents.Body
