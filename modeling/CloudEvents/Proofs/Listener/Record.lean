import CloudEvents.Proofs.Listener.Rules

/-! The span of a request, and what is noted in it on every path. -/
namespace CloudEvents

open Event (entry)
open HttpResponse

variable {ρ : Type} {l : Listener ρ} {context : SpanContext} {x : Exchange ρ} {q : Request}
  {e : Event} {r : Rejection} {f : Fault} {s : Span} {result : Except Fault Stage}

theorem Event.map_fst_entry_sublist (name : String) (value : Scalar) :
    ((entry name value).map Prod.fst).Sublist [name] := by
  rw [entry]
  split
  · exact List.nil_sublist _
  · exact List.Sublist.refl _

/-- What is noted of an event. -/
def Event.notes (e : Event) : List (String × Scalar) :=
  [(Span.Key.eventId, .text e.id), (Span.Key.eventSource, .text e.source),
    (Span.Key.eventSpecVersion, .text e.specVersion), (Span.Key.eventType, .text e.type)]
  ++ entry Span.Key.eventSubject e.subject

namespace Span

theorem set_eq (s : Span) (key : String) (value : Scalar) :
    s.set key value = { s with attributes := s.attributes.insertAll (entry key value) } := by
  by_cases hv : value = .null
  · simp [set, entry, hv, OrderedMap.insertAll]
  · simp [set, entry, hv, OrderedMap.insertAll]

theorem annotate_eq (s : Span) (e : Event) (remote : Option SpanContext) :
    s.annotate e remote = { s with
      attributes := s.attributes.insertAll e.notes
      links := s.links ++ remote.toList } := by
  simp only [annotate, set_eq, ← OrderedMap.insertAll_append, Event.notes]
  rfl

theorem reject_eq (s : Span) (status : Int) (message : String) :
    s.reject status message = { s with
      attributes := s.attributes.insertAll [(Key.httpStatusCode, .int status)]
      status := .error message } := by
  simp only [reject, set_eq]
  rfl

/-- The span as the end of a request leaves it. -/
def close (s : Span) : Except Fault Stage → Span
  | .ok _ => s
  | .error f => s.fail f

@[simp] theorem context_close : (s.close result).context = s.context := by
  cases result <;> rfl

@[simp] theorem attributes_close : (s.close result).attributes = s.attributes := by
  cases result <;> rfl

@[simp] theorem links_close : (s.close result).links = s.links := by
  cases result <;> rfl

theorem status_close_eq_unset_iff :
    (s.close result).status = .unset ↔ (∃ stage, result = .ok stage) ∧ s.status = .unset := by
  cases result with
  | ok stage => simp [close]
  | error f => simp [close, fail]

/-- The names of what is noted of an event. -/
def eventKeys : List String :=
  [Key.eventId, Key.eventSource, Key.eventSpecVersion, Key.eventType, Key.eventSubject]

end Span

open CloudEvents.Span

theorem Event.keys_notes_sublist (e : Event) : (e.notes.map Prod.fst).Sublist eventKeys := by
  rw [notes, List.map_append]
  exact (map_fst_entry_sublist _ _).append_left _

theorem Event.mem_keys_notes_iff {key : String} (h : key ∈ eventKeys) :
    key ∈ e.notes.map Prod.fst ↔ (key = Key.eventSubject → e.subject ≠ .null) := by
  have hsubject : ∀ k ∈ [Key.eventId, Key.eventSource, Key.eventSpecVersion, Key.eventType],
      k ≠ Key.eventSubject := by decide
  have hkeys : key ∈ [Key.eventId, Key.eventSource, Key.eventSpecVersion, Key.eventType] ∨
      key = Key.eventSubject := by
    simpa [eventKeys, or_assoc] using h
  rw [notes, List.map_append, List.mem_append]
  rcases hkeys with hk | rfl
  · exact iff_of_true (Or.inl hk) fun he => absurd he (hsubject key hk)
  · refine (or_iff_right fun hk => hsubject _ hk rfl).trans ?_
    rw [entry]
    split
    case isTrue hs => simp [hs]
    case isFalse hs => simp [hs]

namespace Listener

namespace Party

/-- What is noted of a request beside its method. -/
def notes : Party → List (String × Scalar)
  | handler e => e.notes
  | listener r _ => [(Key.httpStatusCode, .int r.status)]
  | caller _ => []

def links : Party → List SpanContext
  | handler e => e.traceContext?.toList
  | _ => []

def status : Party → SpanStatus
  | listener r _ => .error r.message
  | _ => .unset

theorem nodup_notes (p : Party) (method : Scalar) :
    ((entry Key.httpMethod method ++ p.notes).map Prod.fst).Nodup := by
  have hmethod := Event.map_fst_entry_sublist Key.httpMethod method
  rw [List.map_append]
  cases p with
  | handler e =>
    have hkeys : ([Key.httpMethod] ++ eventKeys).Nodup := by decide
    exact hkeys.sublist (hmethod.append e.keys_notes_sublist)
  | listener r f =>
    have hkeys : ([Key.httpMethod] ++ [Key.httpStatusCode]).Nodup := by decide
    exact hkeys.sublist (hmethod.append_right _)
  | caller f =>
    have hkeys : [Key.httpMethod].Nodup := by decide
    rw [notes, List.map_nil, List.append_nil]
    exact hkeys.sublist hmethod

theorem mem_keys_notes_iff {key : String} (h : key ∈ eventKeys) (p : Party) :
    key ∈ p.notes.map Prod.fst ↔
      ∃ e, p = handler e ∧ (key = Key.eventSubject → e.subject ≠ .null) := by
  cases p with
  | handler e => simp [notes, Event.mem_keys_notes_iff h]
  | listener r f =>
    have hkey : key ≠ Key.httpStatusCode := by
      rintro rfl
      revert h
      decide
    simp [notes, hkey]
  | caller f => simp [notes]

theorem statusCode_mem_notes_iff (p : Party) :
    Key.httpStatusCode ∈ p.notes.map Prod.fst ↔ ∃ r f, p = listener r f := by
  cases p with
  | handler e =>
    have hkey : Key.httpStatusCode ∉ e.notes.map Prod.fst := fun h =>
      absurd (e.keys_notes_sublist.subset h) (by decide)
    refine iff_of_false hkey ?_
    rintro ⟨r, f, h⟩
    cases h
  | listener r f => simp [notes]
  | caller f => simp [notes]

theorem status_eq_unset_iff (p : Party) : p.status = .unset ↔ ¬ ∃ r f, p = listener r f := by
  cases p <;> simp [status]

end Party

/-- The span of a request before its end. -/
def noted (l : Listener ρ) (context : SpanContext) (q : Request) : Span where
  context
  tracer := if l.settings.tracerName.truthy then l.settings.tracerName else .text ""
  attributes := .ofList (entry Key.httpMethod q.method ++ (l.party q).notes)
  links := (l.party q).links
  status := (l.party q).status

theorem toList_noted (l : Listener ρ) (context : SpanContext) (q : Request) :
    (l.noted context q).attributes.toList = entry Key.httpMethod q.method ++ (l.party q).notes :=
  OrderedMap.toList_ofList ((l.party q).nodup_notes q.method)

/-- A request is not both accepted and turned down. -/
theorem not_accepts_of_rejects (hr : l.Rejects q r f) : ¬ l.Accepts q e := by
  intro he
  have hparty := (party_eq_handler_iff.2 he).symm.trans (party_eq_listener_iff.2 hr)
  cases hparty

theorem span_handOver (y : Exchange ρ) (log : List LogRecord) (s : Span) :
    (l.handOver e y log s).span =
      (s.annotate e e.traceContext?).close (l.handOver e y log s).result := by
  simp only [handOver]
  cases (l.handler (s.annotate e e.traceContext?).context e).run y <;> rfl

variable [HttpResponse ρ]

theorem span_turnDown (y : Exchange ρ) (log : List LogRecord) (s : Span) :
    (turnDown r f y log s).span = (s.reject r.status r.message).close
      (turnDown r f y log s).result := by
  simp only [turnDown]
  cases (sendError r.status r.message).run y.response <;> rfl

/-- The span of a request is what was noted, closed with the result. -/
theorem span_dispatch (l : Listener ρ) (context : SpanContext) (x : Exchange ρ) :
    (l.dispatch context x).span =
      (l.noted context x.request).close (l.dispatch context x).result := by
  cases hp : l.party x.request with
  | handler e =>
    obtain ⟨log, -, hd⟩ := dispatch_of_accepts (party_eq_handler_iff.1 hp) context
    rw [hd, span_handOver, start, set_eq, annotate_eq, noted, hp]
    simp only [OrderedMap.ofList, OrderedMap.insertAll_append]
    rfl
  | listener r f =>
    obtain ⟨log, -, hd⟩ := dispatch_of_rejects (party_eq_listener_iff.1 hp) context
    rw [hd, span_turnDown, start, set_eq, reject_eq, noted, hp]
    simp only [OrderedMap.ofList, OrderedMap.insertAll_append]
    rfl
  | caller f =>
    obtain ⟨log, -, hd⟩ := dispatch_of_passes (party_eq_caller_iff.1 hp) context
    rw [hd, start, set_eq, noted, hp]
    simp only [OrderedMap.ofList, OrderedMap.insertAll_append]
    rfl

theorem toList_span (l : Listener ρ) (context : SpanContext) (x : Exchange ρ) :
    (l.dispatch context x).span.attributes.toList =
      entry Key.httpMethod x.request.method ++ (l.party x.request).notes := by
  rw [span_dispatch, attributes_close, toList_noted]

theorem links_span (l : Listener ρ) (context : SpanContext) (x : Exchange ρ) :
    (l.dispatch context x).span.links = (l.party x.request).links := by
  rw [span_dispatch, links_close]
  rfl

/-- A name other than that of the method is noted by the one who answers. -/
theorem mem_keys_span_iff {key : String} (h : key ≠ Key.httpMethod) :
    key ∈ (l.dispatch context x).span.attributes.keys ↔
      key ∈ (l.party x.request).notes.map Prod.fst := by
  have hmethod : key ∉ (entry Key.httpMethod x.request.method).map Prod.fst := fun hk =>
    h (List.mem_singleton.1 ((Event.map_fst_entry_sublist _ _).subset hk))
  rw [OrderedMap.keys, toList_span, List.map_append, List.mem_append, or_iff_right hmethod]

theorem eventKey_mem_keys_span_iff {key : String} (h : key ∈ eventKeys) :
    key ∈ (l.dispatch context x).span.attributes.keys ↔
      ∃ e, l.Accepts x.request e ∧ (key = Key.eventSubject → e.subject ≠ .null) := by
  have hne : ∀ k ∈ eventKeys, k ≠ Key.httpMethod := by decide
  simp only [mem_keys_span_iff (hne key h), Party.mem_keys_notes_iff h, party_eq_handler_iff]

theorem statusCode_mem_keys_span_iff :
    Key.httpStatusCode ∈ (l.dispatch context x).span.attributes.keys ↔
      ∃ r f, l.Rejects x.request r f := by
  have hne : Key.httpStatusCode ≠ Key.httpMethod := by decide
  simp only [mem_keys_span_iff hne, Party.statusCode_mem_notes_iff, party_eq_listener_iff]

theorem status_span_eq_unset_iff :
    (l.dispatch context x).span.status = .unset ↔
      (∃ stage, (l.dispatch context x).result = .ok stage) ∧ ¬ ∃ r f, l.Rejects x.request r f := by
  have hnoted : (l.noted context x.request).status = (l.party x.request).status := rfl
  rw [span_dispatch, status_close_eq_unset_iff, hnoted]
  simp only [Party.status_eq_unset_iff, party_eq_listener_iff]

theorem faults_span (l : Listener ρ) (context : SpanContext) (x : Exchange ρ) :
    (l.dispatch context x).span.faults =
      match (l.dispatch context x).result with
      | .ok _ => []
      | .error f => [f] := by
  rw [span_dispatch]
  cases (l.dispatch context x).result <;> rfl

/-- What the span of a request says when the request is over. -/
structure Recorded (l : Listener ρ) (x : Exchange ρ) (o : Outcome ρ) : Prop where
  accepted : ∀ e, l.Accepts x.request e →
    o.span.attributes.toList = entry Key.httpMethod x.request.method ++ e.notes ∧
      o.span.links = e.traceContext?.toList
  rejected : ∀ r f, l.Rejects x.request r f →
    o.SendsPage (l.reached x) r.stage r.status r.message ∧
      o.span.attributes.toList =
        entry Key.httpMethod x.request.method ++ [(Key.httpStatusCode, .int r.status)] ∧
      o.span.links = []
  passed : ∀ f, l.Passes x.request f →
    o.span.attributes.toList = entry Key.httpMethod x.request.method ∧ o.span.links = []
  mem_keys_iff : ∀ key ∈ eventKeys, key ∈ o.span.attributes.keys ↔
    ∃ e, l.Accepts x.request e ∧ (key = Key.eventSubject → e.subject ≠ .null)
  statusCode_mem_keys_iff :
    Key.httpStatusCode ∈ o.span.attributes.keys ↔ ∃ r f, l.Rejects x.request r f
  apart : ∀ key ∈ eventKeys, key ∈ o.span.attributes.keys →
    Key.httpStatusCode ∉ o.span.attributes.keys
  status_eq_unset_iff : o.span.status = .unset ↔
    (∃ stage, o.result = .ok stage) ∧ ¬ ∃ r f, l.Rejects x.request r f
  status_of_ok : ∀ r f stage, l.Rejects x.request r f → o.result = .ok stage →
    o.span.status = .error r.message
  status_of_error : ∀ f, o.result = .error f →
    o.span.status = .error (f.kind.name ++ ": " ++ f.message)
  faults_of_ok : ∀ stage, o.result = .ok stage → o.span.faults = []
  faults_of_error : ∀ f, o.result = .error f → o.span.faults = [f]

/-- However a request ends, its span says what came of it. -/
theorem dispatch_recorded (l : Listener ρ) (context : SpanContext) (x : Exchange ρ) :
    l.Recorded x (l.dispatch context x) where
  accepted e h := by
    rw [toList_span, links_span, party_eq_handler_iff.2 h]
    exact ⟨rfl, rfl⟩
  rejected r f h := by
    rw [toList_span, links_span, party_eq_listener_iff.2 h]
    exact ⟨sendsPage_of_rejects h context, rfl, rfl⟩
  passed f h := by
    rw [toList_span, links_span, party_eq_caller_iff.2 h]
    exact ⟨List.append_nil _, rfl⟩
  mem_keys_iff _ h := eventKey_mem_keys_span_iff h
  statusCode_mem_keys_iff := statusCode_mem_keys_span_iff
  apart key hkey hmem hcode := by
    obtain ⟨e, he, -⟩ := (eventKey_mem_keys_span_iff hkey).1 hmem
    obtain ⟨r, f, hr⟩ := statusCode_mem_keys_span_iff.1 hcode
    exact not_accepts_of_rejects hr he
  status_eq_unset_iff := status_span_eq_unset_iff
  status_of_ok r f stage h hr := by
    rw [span_dispatch, hr, close, noted, party_eq_listener_iff.2 h]
    rfl
  status_of_error f hr := by
    rw [span_dispatch, hr]
    rfl
  faults_of_ok stage hr := by rw [faults_span, hr]
  faults_of_error f hr := by rw [faults_span, hr]

end Listener

end CloudEvents
