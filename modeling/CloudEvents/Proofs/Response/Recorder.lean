import CloudEvents.Response.Recorder

/-! What is on the record after a run of calls, any of which may raise a fault. -/
namespace CloudEvents

open ResponseWriter

/-- Holds of the calls after whose failure a body stream is still to be closed. -/
def Call.usesStream : Call → Bool
  | .write _ | .flush => true
  | _ => false

namespace Recorder

/-- The recorder with some further calls on its record. -/
def after (r : Recorder) (l : List Call) : Recorder := { r with calls := r.calls ++ l }

/-- The fault that the last of some further calls raises. A body stream is entered as soon as it is
opened, and where it is closed by then, this counts as a fault of opening it. -/
def raises? (r : Recorder) (l : List Call) : Option Fault :=
  (r.plan (r.calls ++ l)).or
    (if r.bornClosed ∧ l.getLast? = some .openBody then some .closedStream else none)

/-- None of some further calls raises a fault. -/
def Quiet (r : Recorder) (l : List Call) : Prop :=
  ∀ before c rest, l = before ++ c :: rest → r.raises? (before ++ [c]) = none

/-- Of some further calls, `c` is the first that raises a fault. -/
def StopsAt (r : Recorder) (l before : List Call) (c : Call) (f : Fault) : Prop :=
  (∃ rest, l = before ++ c :: rest) ∧ r.Quiet before ∧ r.raises? (before ++ [c]) = some f

/-- The calls that are made of some that are to be made, and the fault that is left of them. After a
failed use of a body stream the stream is closed, and the fault of that is the last one. -/
inductive Ends (r : Recorder) (l : List Call) : List Call → Option Fault → Prop
  | quiet (h : r.Quiet l) : Ends r l l none
  | raised {before c f} (h : r.StopsAt l before c f) (hc : c.usesStream = false) :
      Ends r l (before ++ [c]) (some f)
  | closed {before c f} (h : r.StopsAt l before c f) (hc : c.usesStream = true) :
      Ends r l (before ++ [c, .close]) (some ((r.raises? (before ++ [c, .close])).getD f))

variable {r : Recorder} {k l before made : List Call} {c : Call} {f : Fault} {left : Option Fault}
  {a b : EStateM Fault Recorder Unit}

@[simp] theorem after_nil (r : Recorder) : r.after [] = r := by simp [after]

@[simp] theorem after_after (r : Recorder) (k l : List Call) :
    (r.after k).after l = r.after (k ++ l) := by
  simp [after]

theorem raises?_after (r : Recorder) (k before : List Call) (c : Call) :
    (r.after k).raises? (before ++ [c]) = r.raises? (k ++ before ++ [c]) := by
  simp only [raises?, after, List.append_assoc, List.getLast?_append]
  rfl

theorem quiet_nil (r : Recorder) : r.Quiet [] := by
  intro before c rest h
  simp at h

theorem quiet_append : r.Quiet (k ++ l) ↔ r.Quiet k ∧ (r.after k).Quiet l := by
  constructor
  · intro h
    refine ⟨?_, ?_⟩
    · rintro before c rest rfl
      exact h before c (rest ++ l) (by simp)
    · rintro before c rest rfl
      rw [raises?_after]
      exact h (k ++ before) c rest (by simp)
  · rintro ⟨hk, hl⟩ before c rest h
    rcases List.append_eq_append_iff.1 h with ⟨mid, rfl, hmid⟩ | ⟨mid, rfl, hmid⟩
    · have hq := hl mid c rest hmid
      rwa [raises?_after] at hq
    · cases mid with
      | nil =>
        have hq := hl [] c rest (by simpa using hmid.symm)
        rwa [raises?_after, List.append_nil, List.append_nil] at hq
      | cons d mid =>
        obtain ⟨rfl, -⟩ := List.cons.inj hmid
        exact hk before c mid rfl

theorem quiet_singleton : r.Quiet [c] ↔ r.raises? [c] = none := by
  constructor
  · intro h
    exact h [] c [] rfl
  · intro h before d rest hd
    cases before with
    | nil =>
      obtain ⟨rfl, -⟩ := List.cons.inj hd
      exact h
    | cons x before => simp at hd

theorem StopsAt.append_right (h : r.StopsAt k before c f) (l : List Call) :
    r.StopsAt (k ++ l) before c f := by
  obtain ⟨⟨rest, rfl⟩, hq, hf⟩ := h
  exact ⟨⟨rest ++ l, by simp⟩, hq, hf⟩

theorem StopsAt.append_left (hk : r.Quiet k) (h : (r.after k).StopsAt l before c f) :
    r.StopsAt (k ++ l) (k ++ before) c f := by
  obtain ⟨⟨rest, rfl⟩, hq, hf⟩ := h
  rw [raises?_after] at hf
  exact ⟨⟨rest, by simp⟩, quiet_append.2 ⟨hk, hq⟩, hf⟩

theorem stopsAt_singleton (h : r.raises? [c] = some f) : r.StopsAt [c] [] c f :=
  ⟨⟨[], rfl⟩, r.quiet_nil, h⟩

theorem Ends.append_left (hk : r.Quiet k) (h : (r.after k).Ends l made left) :
    r.Ends (k ++ l) (k ++ made) left := by
  cases h with
  | quiet h => exact .quiet (quiet_append.2 ⟨hk, h⟩)
  | raised h hc =>
    rw [← List.append_assoc]
    exact .raised (h.append_left hk) hc
  | @closed before c f h hc =>
    have hclose := raises?_after r k (before ++ [c]) .close
    simp only [List.append_assoc, List.cons_append, List.nil_append] at hclose
    rw [hclose]
    have hend := Ends.closed (h.append_left hk) hc
    simpa only [List.append_assoc] using hend

/-- What is left is a fault exactly when one of the calls raises one. -/
theorem Ends.left_eq_none_iff (h : r.Ends l made left) :
    left = none ↔ r.Quiet l := by
  have hstop : ∀ {before c f}, r.StopsAt l before c f → ¬ r.Quiet l := by
    rintro before c f ⟨⟨rest, rfl⟩, -, hf⟩ hq
    rw [hq before c rest rfl] at hf
    cases hf
  cases h with
  | quiet h => simp [h]
  | raised h _ => simp [hstop h]
  | closed h _ => simp [hstop h]

theorem raises?_of_ne (hc : c ≠ .openBody) (before : List Call) :
    r.raises? (before ++ [c]) = r.plan (r.calls ++ (before ++ [c])) := by
  simp [raises?, hc]

/-- An action that makes some calls, one after another up to the first that raises a fault, and does
nothing else. -/
def Performs (a : EStateM Fault Recorder Unit) (l : List Call) : Prop :=
  ∀ r : Recorder, r.Quiet l ∧ a.run r = .ok () (r.after l) ∨
    ∃ before c f, r.StopsAt l before c f ∧ a.run r = .error f (r.after (before ++ [c]))

theorem performs_pure : Performs (pure ()) [] := by
  intro r
  exact Or.inl ⟨r.quiet_nil, by rw [after_nil]; rfl⟩

theorem performs_record (hc : c ≠ .openBody) : Performs (record c) [c] := by
  intro r
  have hraises := raises?_of_ne (r := r) hc []
  rw [List.nil_append] at hraises
  have hrun := run_record c r
  rw [← hraises] at hrun
  cases hf : r.raises? [c] with
  | none =>
    rw [hf] at hrun
    exact Or.inl ⟨quiet_singleton.2 hf, hrun⟩
  | some f =>
    rw [hf] at hrun
    exact Or.inr ⟨[], c, f, stopsAt_singleton hf, hrun⟩

theorem Performs.seq (ha : Performs a k) (hb : Performs b l) :
    Performs (do a; b) (k ++ l) := by
  intro r
  rcases ha r with ⟨hk, hrun⟩ | ⟨before, c, f, hstop, hrun⟩
  · rcases hb (r.after k) with ⟨hl, hrest⟩ | ⟨before, c, f, hstop, hrest⟩
    · refine Or.inl ⟨quiet_append.2 ⟨hk, hl⟩, ?_⟩
      rw [EStateM.run_bind, hrun]
      simpa only [after_after] using hrest
    · refine Or.inr ⟨k ++ before, c, f, hstop.append_left hk, ?_⟩
      rw [EStateM.run_bind, hrun]
      simpa only [after_after, List.append_assoc] using hrest
  · refine Or.inr ⟨before, c, f, hstop.append_right l, ?_⟩
    rw [EStateM.run_bind, hrun]

/-- A loop makes the calls of its rounds. -/
theorem performs_forM {α : Type} {act : α → EStateM Fault Recorder Unit} {call : α → Call}
    (h : ∀ x, Performs (act x) [call x]) (xs : List α) : Performs (forM xs act) (xs.map call) := by
  induction xs with
  | nil => exact performs_pure
  | cons x xs ih =>
    rw [List.forM_cons]
    exact (h x).seq ih

/-- The end of a run with what is left of it. -/
def outcome (left : Option Fault) (r : Recorder) : EStateM.Result Fault Recorder Unit :=
  match left with
  | none => .ok () r
  | some f => .error f r

/-- A body stream that was opened is closed by the last of the calls, and by no other one after it
was opened. -/
def Closes (r : Recorder) (made : List Call) : Prop :=
  ∀ front rest, made = front ++ .openBody :: rest → r.raises? (front ++ [.openBody]) = none →
    ∃ mid, rest = mid ++ [.close] ∧ .close ∉ mid

/-- How a run ended: its calls, what is left of them, and its body streams, which are all closed. -/
structure EndedBy (r : Recorder) (l made : List Call) (left : Option Fault) (streams : List Bool) :
    Prop where
  ends : r.Ends l made left
  closes : r.Closes made
  closed : ∀ closed ∈ streams, closed = true

/-- An action that is to make some calls and that closes the body streams it opens. -/
def EndsWith (a : EStateM Fault Recorder Unit) (l : List Call) : Prop :=
  ∀ r : Recorder, ∃ made left streams, r.EndedBy l made left streams ∧
    a.run r = outcome left { r.after made with closed := r.closed ++ streams }

theorem closes_of_notMem (h : .openBody ∉ made) : r.Closes made := by
  rintro front rest rfl
  simp at h

theorem Closes.append_left (hk : .openBody ∉ k) (h : (r.after k).Closes made) :
    r.Closes (k ++ made) := by
  intro front rest hsplit hopen
  rcases List.append_eq_append_iff.1 hsplit with ⟨mid, rfl, hmade⟩ | ⟨mid, rfl, hmid⟩
  · rw [List.append_assoc, ← List.append_assoc, ← raises?_after] at hopen
    exact h mid rest hmade hopen
  · cases mid with
    | nil =>
      have hraises := raises?_after r front [] .openBody
      rw [List.append_nil] at hraises h
      exact h [] rest hmid.symm (hraises.trans hopen)
    | cons c mid =>
      obtain ⟨rfl, -⟩ := List.cons.inj hmid
      simp at hk

theorem Performs.seq_endsWith (ha : Performs a k)
    (hk : ∀ c ∈ k, c.usesStream = false ∧ c ≠ .openBody) (hb : EndsWith b l) :
    EndsWith (do a; b) (k ++ l) := by
  intro r
  rcases ha r with ⟨hq, hrun⟩ | ⟨before, c, f, hstop, hrun⟩
  · obtain ⟨made, left, streams, hend, hrest⟩ := hb (r.after k)
    have hopen : .openBody ∉ k := fun h => (hk _ h).2 rfl
    refine ⟨k ++ made, left, streams,
      ⟨hend.ends.append_left hq, hend.closes.append_left hopen, hend.closed⟩, ?_⟩
    rw [after_after] at hrest
    rw [EStateM.run_bind, hrun]
    exact hrest
  · obtain ⟨⟨rest, rfl⟩, -⟩ := id hstop
    have hstart : before ++ [c] <+: before ++ c :: rest := ⟨rest, by simp⟩
    have hopen : .openBody ∉ before ++ [c] := fun h => (hk _ (hstart.subset h)).2 rfl
    refine ⟨before ++ [c], some f, [],
      ⟨.raised (hstop.append_right l) (hk c (by simp)).1, closes_of_notMem hopen, by simp⟩, ?_⟩
    rw [EStateM.run_bind, hrun]
    simp [outcome, after]

theorem endsWith_pure : EndsWith (pure ()) [] := by
  intro r
  refine ⟨[], none, [], ⟨.quiet r.quiet_nil, closes_of_notMem (by simp), by simp⟩, ?_⟩
  rw [after_nil, List.append_nil]
  rfl

theorem Performs.endsWith (ha : Performs a k)
    (hk : ∀ c ∈ k, c.usesStream = false ∧ c ≠ .openBody) : EndsWith a k := by
  have hseq := ha.seq_endsWith hk endsWith_pure
  rwa [List.append_nil, bind_pure_unit] at hseq

theorem run_closeBody {streams : List Bool} (hs : r.closed = streams ++ [false]) :
    (closeBody streams.length).run r =
      outcome (r.raises? [.close]) { r.after [.close] with closed := streams ++ [true] } := by
  have hopen : r.isClosed streams.length = false := by simp [isClosed, hs]
  have hset : r.closed.set streams.length true = streams ++ [true] := by simp [hs]
  have hraises := raises?_of_ne (r := r) (c := .close) (by simp) []
  rw [List.nil_append] at hraises
  have hrun : (closeBody streams.length).run r =
      (record .close).run { r with closed := r.closed.set streams.length true } := by
    simp only [closeBody, EStateM.run_bind, EStateM.run_get, hopen]
    rfl
  rw [hrun, run_record, hset, hraises]
  cases r.plan (r.calls ++ [.close]) <;> rfl

theorem ends_singleton (hc : c.usesStream = false) : r.Ends [c] [c] (r.raises? [c]) := by
  cases hf : r.raises? [c] with
  | none => exact .quiet (quiet_singleton.2 hf)
  | some f => exact .raised (stopsAt_singleton hf) hc

/-- A body stream that is open is closed once after its use, whether the use fails or not. -/
theorem run_use {use : EStateM Fault Recorder Unit} {streams : List Bool}
    (hs : r.closed = streams ++ [false]) (hu : Performs use l) (hl : ∀ c ∈ l, c.usesStream = true) :
    ∃ made left, r.Ends (l ++ [.close]) (made ++ [.close]) left ∧ made <+: l ∧
      (tryFinally use (closeBody streams.length)).run r =
        outcome left { r.after (made ++ [.close]) with closed := streams ++ [true] } := by
  rcases hu r with ⟨hq, hrun⟩ | ⟨before, c, f, hstop, hrun⟩
  · have hclose := run_closeBody (r := r.after l) hs
    rw [after_after] at hclose
    refine ⟨l, _, (ends_singleton rfl).append_left hq, List.prefix_rfl, ?_⟩
    rw [run_tryFinally, hrun]
    simp only [hclose]
    cases (r.after l).raises? [.close] <;> rfl
  · have hclose := run_closeBody (r := r.after (before ++ [c])) hs
    have hraises := raises?_after r (before ++ [c]) [] .close
    obtain ⟨⟨rest, rfl⟩, -⟩ := id hstop
    have hends := Ends.closed (hstop.append_right [.close]) (hl c (by simp))
    simp only [List.append_nil, List.nil_append, List.append_assoc, List.cons_append,
      after_after] at hraises hclose
    refine ⟨before ++ [c], some ((r.raises? (before ++ [c, .close])).getD f), ?_,
      ⟨rest, by simp⟩, ?_⟩
    · have hsplit : before ++ [c] ++ [.close] = before ++ [c, .close] := by simp
      rw [hsplit]
      exact hends
    · rw [run_tryFinally, hrun]
      simp only [hclose, List.append_assoc, List.cons_append, List.nil_append, hraises]
      cases r.raises? (before ++ [c, .close]) <;> rfl

theorem raises?_openBody (r : Recorder) : r.raises? [.openBody] =
    (r.plan (r.calls ++ [.openBody])).or (if r.bornClosed then some .closedStream else none) := by
  simp [raises?]

theorem run_withBody (r : Recorder) (use : Nat → EStateM Fault Recorder Unit) :
    (withBody use).run r =
      match r.plan (r.calls ++ [.openBody]) with
      | some f => .error f (r.after [.openBody])
      | none =>
        if r.bornClosed then
          .error .closedStream { r.after [.openBody] with closed := r.closed ++ [true] }
        else
          (tryFinally (use r.closed.length) (closeBody r.closed.length)).run
            { r.after [.openBody] with closed := r.closed ++ [false] } := by
  have hopen : (ResponseWriter.openBody : EStateM Fault Recorder Nat) = openBody := rfl
  have henter : (ResponseWriter.enterBody : Nat → EStateM Fault Recorder Unit) = enterBody := rfl
  have hclose : (ResponseWriter.closeBody : Nat → EStateM Fault Recorder Unit) = closeBody := rfl
  rw [withBody, hopen, henter, hclose]
  simp only [EStateM.run_bind, openBody, run_record, EStateM.run_modifyGet, enterBody]
  cases r.plan (r.calls ++ [.openBody]) with
  | some f => rfl
  | none =>
    cases hb : r.bornClosed with
    | true => simp [isClosed, hb, after]
    | false => simp [isClosed, hb, after]

theorem Ends.of_closed {streams : List Bool}
    (h : Ends { r with closed := streams } l made left) : r.Ends l made left := by
  cases h with
  | quiet h => exact .quiet h
  | raised h hc => exact .raised h hc
  | closed h hc => exact .closed h hc

theorem closes_cons (ho : .openBody ∉ made) (hc : .close ∉ made) :
    r.Closes (.openBody :: made ++ [.close]) := by
  intro front rest hsplit _
  cases front with
  | nil =>
    obtain ⟨-, rfl⟩ := List.cons.inj hsplit
    exact ⟨made, rfl, hc⟩
  | cons x front =>
    obtain ⟨-, hrest⟩ := List.cons.inj hsplit
    have hmem : .openBody ∈ made ++ [.close] := by
      rw [List.append_eq, List.append_eq] at hrest
      rw [hrest]
      simp
    simp [ho] at hmem

theorem endedBy_openBody (hf : r.raises? [.openBody] = some f) {streams : List Bool}
    (hs : ∀ closed ∈ streams, closed = true) (l : List Call) :
    r.EndedBy ([.openBody] ++ l) [.openBody] (some f) streams := by
  refine ⟨.raised ((stopsAt_singleton hf).append_right l) rfl, ?_, hs⟩
  intro front rest hsplit hopen
  cases front with
  | nil =>
    rw [List.nil_append, hf] at hopen
    cases hopen
  | cons x front => simp at hsplit

/-- A body stream is opened, used and closed. -/
theorem endsWith_withBody {use : Nat → EStateM Fault Recorder Unit}
    (hu : ∀ stream, Performs (use stream) l) (hl : ∀ c ∈ l, c.usesStream = true) :
    EndsWith (withBody use) ([.openBody] ++ (l ++ [.close])) := by
  intro r
  have hrun := run_withBody r use
  have hraises := raises?_openBody r
  cases hp : r.plan (r.calls ++ [.openBody]) with
  | some f =>
    rw [hp] at hrun hraises
    refine ⟨[.openBody], some f, [], endedBy_openBody hraises (by simp) _, ?_⟩
    rw [hrun, List.append_nil]
    rfl
  | none =>
    rw [hp] at hrun hraises
    cases hb : r.bornClosed with
    | true =>
      rw [hb] at hrun hraises
      exact ⟨[.openBody], some .closedStream, [true], endedBy_openBody hraises (by simp) _, hrun⟩
    | false =>
      rw [hb] at hrun hraises
      obtain ⟨made, left, hends, hstart, huse⟩ := run_use (r := { r.after [.openBody] with
        closed := r.closed ++ [false] }) rfl (hu r.closed.length) hl
      have hmade : ∀ c ∈ made, c.usesStream = true := fun c hc => hl c (hstart.subset hc)
      have hopen : .openBody ∉ made := fun h => Bool.false_ne_true (hmade _ h)
      have hclose : .close ∉ made := fun h => Bool.false_ne_true (hmade _ h)
      refine ⟨[.openBody] ++ (made ++ [.close]), left, [true],
        ⟨hends.of_closed.append_left (quiet_singleton.2 hraises), closes_cons hopen hclose,
          by simp⟩, ?_⟩
      have hall := hrun.trans huse
      simpa only [after, List.append_assoc] using hall

end Recorder

end CloudEvents
