import CloudEvents.Listener.Dispatch

/-! Who answers a request: the handler, the listener, or nobody. -/
namespace CloudEvents

open HttpResponse

variable {ρ : Type} {l : Listener ρ} {context : SpanContext} {x : Exchange ρ} {q : Request}
  {e : Event} {r : Rejection} {f : Fault} {log : List LogRecord} {span : Span}

namespace Outcome

/-- An outcome as that of an action on the exchange. -/
def answer (o : Outcome ρ) : EStateM.Result Fault (Exchange ρ) Stage :=
  match o.result with
  | .ok stage => .ok stage o.exchange
  | .error f => .error f o.exchange

def warnings (o : Outcome ρ) : Nat := o.log.countP fun record => record.level = .warning

end Outcome

namespace Listener

def Allows (l : Listener ρ) (q : Request) : Prop := q.method ∈ l.settings.allowedMethods.map .text

instance (l : Listener ρ) (q : Request) : Decidable (l.Allows q) :=
  inferInstanceAs (Decidable (_ ∈ _))

/-- The request has an event for the handler. -/
def Accepts (l : Listener ρ) (q : Request) (e : Event) : Prop :=
  l.Allows q ∧ (q.readEvent l.settings).result = .ok e

/-- The request is turned down because of a fault. -/
def Rejects (l : Listener ρ) (q : Request) (r : Rejection) (f : Fault) : Prop :=
  ¬ l.Allows q ∧ r = .ofMethod q.method ∧ f = .unsupportedMethod q.method ∨
    l.Allows q ∧ (q.readEvent l.settings).result = .error f ∧
      Rejection.ofFault? l.settings f = some r

/-- The request has no event, and nothing is said to that. -/
def Passes (l : Listener ρ) (q : Request) (f : Fault) : Prop :=
  l.Allows q ∧ (q.readEvent l.settings).result = .error f ∧ Rejection.ofFault? l.settings f = none

/-- The exchange once the event is read, which is done when the method allows it. -/
def reached (l : Listener ρ) (x : Exchange ρ) : Exchange ρ :=
  if l.Allows x.request then
    { x with request := { x.request with body := (x.request.readEvent l.settings).body } }
  else x

/-- The one to answer a request. -/
inductive Party
  | handler (e : Event)
  | listener (r : Rejection) (f : Fault)
  | caller (f : Fault)

namespace Party

variable {s : Settings} {read : Except Fault Event}

/-- The one to answer, by what reading the event gave. -/
def ofRead (s : Settings) : Except Fault Event → Party
  | .ok e => handler e
  | .error f =>
    match Rejection.ofFault? s f with
    | some r => listener r f
    | none => caller f

theorem ofRead_eq_handler_iff : ofRead s read = handler e ↔ read = .ok e := by
  cases read with
  | ok d => simp [ofRead]
  | error g => cases hr : Rejection.ofFault? s g <;> simp [ofRead, hr]

theorem ofRead_eq_listener_iff :
    ofRead s read = listener r f ↔ read = .error f ∧ Rejection.ofFault? s f = some r := by
  cases read with
  | ok d => simp [ofRead]
  | error g =>
    simp only [ofRead, Except.error.injEq]
    constructor
    · intro h
      cases hr : Rejection.ofFault? s g with
      | none => simp [hr] at h
      | some t =>
        simp only [hr, listener.injEq] at h
        exact ⟨h.2, by rw [← h.2, hr, h.1]⟩
    · rintro ⟨rfl, hr⟩
      rw [hr]

theorem ofRead_eq_caller_iff :
    ofRead s read = caller f ↔ read = .error f ∧ Rejection.ofFault? s f = none := by
  cases read with
  | ok d => simp [ofRead]
  | error g =>
    simp only [ofRead, Except.error.injEq]
    constructor
    · intro h
      cases hr : Rejection.ofFault? s g with
      | none =>
        simp only [hr, caller.injEq] at h
        exact ⟨h, by rw [← h, hr]⟩
      | some t => simp [hr] at h
    · rintro ⟨rfl, hr⟩
      rw [hr]

end Party

def party (l : Listener ρ) (q : Request) : Party :=
  if l.Allows q then .ofRead l.settings (q.readEvent l.settings).result
  else .listener (.ofMethod q.method) (.unsupportedMethod q.method)

theorem party_eq_handler_iff : l.party q = .handler e ↔ l.Accepts q e := by
  by_cases ha : l.Allows q
  · simp [party, Accepts, ha, Party.ofRead_eq_handler_iff]
  · simp [party, Accepts, ha]

theorem party_eq_listener_iff : l.party q = .listener r f ↔ l.Rejects q r f := by
  by_cases ha : l.Allows q
  · simp [party, Rejects, ha, Party.ofRead_eq_listener_iff]
  · simp [party, Rejects, ha, eq_comm]

theorem party_eq_caller_iff : l.party q = .caller f ↔ l.Passes q f := by
  by_cases ha : l.Allows q
  · simp [party, Passes, ha, Party.ofRead_eq_caller_iff]
  · simp [party, Passes, ha]

/-- Where a request is turned down, and the status that it is turned down with. -/
theorem stage_status_of_rejects (h : l.Rejects q r f) :
    r.stage = .awaitingRequest ∧ r.status = Status.notImplemented ∨
      r.stage = .decoding ∧
        (r.status = Status.badRequest ∨ r.status = Status.unsupportedMediaType) := by
  rcases h with ⟨-, rfl, -⟩ | ⟨-, -, hr⟩
  · exact Or.inl ⟨rfl, rfl⟩
  · right
    unfold Rejection.ofFault? at hr
    split at hr
    · cases hr
      exact ⟨rfl, Or.inl rfl⟩
    · split at hr
      · cases hr
        exact ⟨rfl, Or.inr rfl⟩
      · split at hr
        · cases hr
          exact ⟨rfl, Or.inl rfl⟩
        · cases hr

theorem stage_of_rejects (h : l.Rejects q r f) :
    r.stage = .awaitingRequest ∨ r.stage = .decoding :=
  (stage_status_of_rejects h).imp And.left And.left

theorem decode_of_accepts (h : l.Accepts q e) :
    (Binary.decode q.headers q.body).result = .ok e := by
  have hread := h.2
  cases hd : (Binary.decode q.headers q.body).result with
  | error f =>
    simp only [Request.readEvent, hd] at hread
    cases hread
  | ok d =>
    simp only [Request.readEvent, hd] at hread
    split at hread
    · cases hread
    · rwa [← hd]

theorem checkMethod_of_allows (h : l.Allows q) : l.settings.checkMethod q.method = .ok () :=
  if_pos h

theorem checkMethod_of_not_allows (h : ¬ l.Allows q) :
    l.settings.checkMethod q.method = .error (.unsupportedMethod q.method) :=
  if_neg h

/-- None of the records is a warning. -/
def Quiet (log : List LogRecord) : Prop := ∀ record ∈ log, record.level ≠ .warning

theorem quiet_ignored (names : List String) : Quiet (names.map .ignored) := by
  intro record hr
  obtain ⟨name, -, rfl⟩ := List.mem_map.1 hr
  simp [LogRecord.ignored]

theorem countP_of_quiet (h : Quiet log) :
    (log.countP fun record => record.level = .warning) = 0 := by
  rw [List.countP_eq_zero]
  intro record hr
  simpa using h record hr

theorem dispatch_of_accepts [HttpResponse ρ] (h : l.Accepts x.request e)
    (context : SpanContext) : ∃ log, Quiet log ∧
    l.dispatch context x = l.handOver e (l.reached x) log
      (.start l.settings.tracerName context x.request.method) := by
  refine ⟨_, quiet_ignored (x.request.readEvent l.settings).ignored, ?_⟩
  simp only [dispatch, checkMethod_of_allows h.1, h.2, reached, if_pos h.1]

theorem dispatch_of_passes [HttpResponse ρ] (h : l.Passes x.request f)
    (context : SpanContext) : ∃ log, Quiet log ∧
    l.dispatch context x = ⟨.error f, none, l.reached x, log,
      (Span.start l.settings.tracerName context x.request.method).fail f⟩ := by
  refine ⟨_, quiet_ignored (x.request.readEvent l.settings).ignored, ?_⟩
  simp only [dispatch, checkMethod_of_allows h.1, h.2.1, h.2.2, reached, if_pos h.1]

theorem dispatch_of_rejects [HttpResponse ρ] (h : l.Rejects x.request r f)
    (context : SpanContext) : ∃ log, Quiet log ∧
    l.dispatch context x = turnDown r f (l.reached x) log
      (.start l.settings.tracerName context x.request.method) := by
  rcases h with ⟨ha, rfl, rfl⟩ | ⟨ha, hf, hr⟩
  · refine ⟨[], by simp [Quiet], ?_⟩
    simp only [dispatch, checkMethod_of_not_allows ha, reached, if_neg ha]
  · refine ⟨_, quiet_ignored (x.request.readEvent l.settings).ignored, ?_⟩
    simp only [dispatch, checkMethod_of_allows ha, hf, hr, reached, if_pos ha]

theorem context_set (s : Span) (key : String) (value : Scalar) :
    (s.set key value).context = s.context := by
  rw [Span.set]
  split <;> rfl

theorem context_annotate (s : Span) (remote : Option SpanContext) :
    (s.annotate e remote).context = s.context := by
  simp only [Span.annotate, context_set]

theorem context_start (tracer method : Scalar) :
    (Span.start tracer context method).context = context :=
  context_set ..

theorem answer_handOver (x : Exchange ρ) (log : List LogRecord) (span : Span) :
    (l.handOver e x log span).answer =
      (do l.handler span.context e; return Stage.handlerInvoked).run x := by
  simp only [handOver, context_annotate, EStateM.run_bind]
  cases (l.handler span.context e).run x <;> rfl

theorem run_respond {α : Type} (act : EStateM Fault ρ α) (x : Exchange ρ) :
    (Exchange.respond act).run x =
      match act.run x.response with
      | .ok a response => .ok a { x with response }
      | .error f response => .error f { x with response } := by
  change Exchange.respond act x = _
  unfold Exchange.respond
  cases act.run x.response with
  | ok a response => rfl
  | error f response => rfl

theorem answer_turnDown [HttpResponse ρ] (x : Exchange ρ) (log : List LogRecord) (span : Span) :
    (turnDown r f x log span).answer =
      (do Exchange.respond (sendError r.status r.message); return r.stage).run x := by
  simp only [turnDown, EStateM.run_bind, run_respond]
  cases (sendError r.status r.message).run x.response <;> rfl

theorem handled_handOver (x : Exchange ρ) (log : List LogRecord) (span : Span) :
    (l.handOver e x log span).handled = some e ∧
      (l.handOver e x log span).log = log ++ [.dispatching e] := by
  simp only [handOver, context_annotate]
  cases (l.handler span.context e).run x <;> exact ⟨rfl, rfl⟩

theorem handled_turnDown [HttpResponse ρ] (x : Exchange ρ) (log : List LogRecord) (span : Span) :
    (turnDown r f x log span).handled = none ∧
      (turnDown r f x log span).log = log ++ [.rejected r.reason f] := by
  simp only [turnDown]
  cases (sendError r.status r.message).run x.response <;> exact ⟨rfl, rfl⟩

theorem result_eq_ok_iff {o : Outcome ρ} {stage : Stage} :
    o.result = .ok stage ↔ ∃ y, o.answer = .ok stage y := by
  cases hr : o.result <;> simp [Outcome.answer, hr]

theorem result_eq_error_iff {o : Outcome ρ} :
    o.result = .error f ↔ ∃ y, o.answer = .error f y := by
  cases hr : o.result <;> simp [Outcome.answer, hr]

theorem run_return_eq_ok_iff {a : EStateM Fault (Exchange ρ) Unit} {s t : Stage} {y : Exchange ρ} :
    (do a; return s).run x = .ok t y ↔ s = t ∧ a.run x = .ok () y := by
  rw [EStateM.run_bind]
  cases a.run x <;> simp

theorem run_return_eq_error_iff {a : EStateM Fault (Exchange ρ) Unit} {s : Stage} {y : Exchange ρ} :
    (do a; return s).run x = .error f y ↔ a.run x = .error f y := by
  rw [EStateM.run_bind]
  cases a.run x <;> simp

theorem run_respond_ok_iff {act : EStateM Fault ρ Unit} :
    (∃ y, (Exchange.respond act).run x = .ok () y) ↔ ∃ y, act.run x.response = .ok () y := by
  rw [run_respond]
  cases act.run x.response <;> simp

theorem run_respond_error_iff {act : EStateM Fault ρ Unit} :
    (∃ y, (Exchange.respond act).run x = .error f y) ↔ ∃ y, act.run x.response = .error f y := by
  rw [run_respond]
  cases act.run x.response <;> simp

theorem response_reached (l : Listener ρ) (x : Exchange ρ) :
    (l.reached x).response = x.response := by
  rw [reached]
  split <;> rfl

variable [HttpResponse ρ]

theorem dispatch_accepts (h : l.Accepts x.request e) (context : SpanContext) :
    (l.dispatch context x).handled = some e ∧
      (l.dispatch context x).answer =
        (do l.handler context e; return Stage.handlerInvoked).run (l.reached x) ∧
      (l.dispatch context x).warnings = 0 := by
  obtain ⟨log, hlog, hd⟩ := dispatch_of_accepts h context
  have hhandled := handled_handOver (l := l) (e := e) (l.reached x) log
    (.start l.settings.tracerName context x.request.method)
  refine ⟨hd ▸ hhandled.1, ?_, ?_⟩
  · rw [hd, answer_handOver, context_start]
  · rw [Outcome.warnings, hd, hhandled.2, List.countP_append, countP_of_quiet hlog]
    rfl

theorem dispatch_rejects (h : l.Rejects x.request r f) (context : SpanContext) :
    (l.dispatch context x).handled = none ∧
      (l.dispatch context x).answer =
        (do Exchange.respond (sendError r.status r.message); return r.stage).run (l.reached x) ∧
      (l.dispatch context x).warnings = 1 := by
  obtain ⟨log, hlog, hd⟩ := dispatch_of_rejects h context
  have hhandled := handled_turnDown (r := r) (f := f) (l.reached x) log
    (.start l.settings.tracerName context x.request.method)
  refine ⟨hd ▸ hhandled.1, ?_, ?_⟩
  · rw [hd, answer_turnDown]
  · rw [Outcome.warnings, hd, hhandled.2, List.countP_append, countP_of_quiet hlog]
    rfl

theorem dispatch_passes (h : l.Passes x.request f) (context : SpanContext) :
    (l.dispatch context x).handled = none ∧
      (l.dispatch context x).answer = .error f (l.reached x) ∧
      (l.dispatch context x).warnings = 0 := by
  obtain ⟨log, hlog, hd⟩ := dispatch_of_passes h context
  refine ⟨by rw [hd], by rw [hd]; rfl, ?_⟩
  rw [Outcome.warnings, hd, countP_of_quiet hlog]

theorem result_of_accepts (h : l.Accepts x.request e) (context : SpanContext) :
    (∀ s, (l.dispatch context x).result = .ok s ↔
      Stage.handlerInvoked = s ∧ ∃ y, (l.handler context e).run (l.reached x) = .ok () y) ∧
    ∀ f, (l.dispatch context x).result = .error f ↔
      ∃ y, (l.handler context e).run (l.reached x) = .error f y := by
  have hanswer := (dispatch_accepts h context).2.1
  constructor
  · intro s
    simp only [result_eq_ok_iff, hanswer, run_return_eq_ok_iff, exists_and_left]
  · intro f
    simp only [result_eq_error_iff, hanswer, run_return_eq_error_iff]

theorem result_of_rejects (h : l.Rejects x.request r f) (context : SpanContext) :
    (∀ s, (l.dispatch context x).result = .ok s ↔
      r.stage = s ∧ ∃ y, (sendError r.status r.message).run x.response = .ok () y) ∧
    ∀ g, (l.dispatch context x).result = .error g ↔
      ∃ y, (sendError r.status r.message).run x.response = .error g y := by
  have hanswer := (dispatch_rejects h context).2.1
  constructor
  · intro s
    simp only [result_eq_ok_iff, hanswer, run_return_eq_ok_iff, exists_and_left,
      run_respond_ok_iff, response_reached]
  · intro g
    simp only [result_eq_error_iff, hanswer, run_return_eq_error_iff, run_respond_error_iff,
      response_reached]

theorem result_of_passes (h : l.Passes x.request f) (context : SpanContext) :
    (l.dispatch context x).result = .error f :=
  result_eq_error_iff.2 ⟨_, (dispatch_passes h context).2.1⟩

theorem accepts_of_handled (h : (l.dispatch context x).handled = some e) :
    l.Accepts x.request e := by
  cases hp : l.party x.request with
  | handler d =>
    have ha := party_eq_handler_iff.1 hp
    rw [(dispatch_accepts ha context).1, Option.some.injEq] at h
    rwa [← h]
  | listener r f =>
    rw [(dispatch_rejects (party_eq_listener_iff.1 hp) context).1] at h
    cases h
  | caller f =>
    rw [(dispatch_passes (party_eq_caller_iff.1 hp) context).1] at h
    cases h

/-- A request is answered by the handler, which is given the event, or by the listener, with one
error page and one warning, or by neither of them. What the one who answers leaves, a fault or the
lack of one, is what is left of the request. -/
theorem dispatch_answered (l : Listener ρ) (context : SpanContext) (x : Exchange ρ) :
    (∀ e, (l.dispatch context x).handled = some e ↔ l.Accepts x.request e) ∧
    (∀ e, l.Accepts x.request e → (l.dispatch context x).answer =
      (do l.handler context e; return Stage.handlerInvoked).run (l.reached x)) ∧
    (∀ r f, l.Rejects x.request r f → (l.dispatch context x).handled = none ∧
      (l.dispatch context x).answer =
        (do Exchange.respond (sendError r.status r.message); return r.stage).run (l.reached x)) ∧
    (∀ f, l.Passes x.request f → (l.dispatch context x).handled = none ∧
      (l.dispatch context x).answer = .error f (l.reached x)) ∧
    ((l.dispatch context x).result = .ok .handlerInvoked ↔
      ∃ e y, l.Accepts x.request e ∧ (l.handler context e).run (l.reached x) = .ok () y) ∧
    ((l.dispatch context x).result = .ok .awaitingRequest ∨
        (l.dispatch context x).result = .ok .decoding ↔
      ∃ r f y, l.Rejects x.request r f ∧
        (sendError r.status r.message).run x.response = .ok () y) ∧
    (∀ f, (l.dispatch context x).result = .error f ↔
      l.Passes x.request f ∨
      (∃ r g y, l.Rejects x.request r g ∧
        (sendError r.status r.message).run x.response = .error f y) ∨
      ∃ e y, l.Accepts x.request e ∧ (l.handler context e).run (l.reached x) = .error f y) ∧
    ((l.dispatch context x).warnings = 1 ↔ ∃ r f, l.Rejects x.request r f) ∧
    (l.dispatch context x).warnings ≤ 1 := by
  simp only [← party_eq_handler_iff, ← party_eq_listener_iff, ← party_eq_caller_iff]
  cases hp : l.party x.request with
  | handler e =>
    have h := party_eq_handler_iff.1 hp
    obtain ⟨hhandled, hanswer, hwarnings⟩ := dispatch_accepts h context
    obtain ⟨hok, herror⟩ := result_of_accepts h context
    simp [hhandled, hanswer, hwarnings, hok, herror]
  | listener r f =>
    have h := party_eq_listener_iff.1 hp
    obtain ⟨hhandled, hanswer, hwarnings⟩ := dispatch_rejects h context
    obtain ⟨hok, herror⟩ := result_of_rejects h context
    have hstage := stage_of_rejects h
    rcases hstage with hs | hs
    · simp [hhandled, hanswer, hwarnings, hok, herror, hs]
    · simp [hhandled, hanswer, hwarnings, hok, herror, hs]
  | caller f =>
    have h := party_eq_caller_iff.1 hp
    obtain ⟨hhandled, hanswer, hwarnings⟩ := dispatch_passes h context
    simp [hhandled, hanswer, hwarnings, result_of_passes h context]

end Listener

end CloudEvents
