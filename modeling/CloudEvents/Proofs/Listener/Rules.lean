import CloudEvents.Proofs.Binary.Refusals
import CloudEvents.Proofs.Listener.Answer
import CloudEvents.Response.Recorder

/-! The rules by which requests are answered; a fault is judged by its kind alone. -/
namespace CloudEvents

open Binary HttpResponse
open Fault (Kind)

variable {ρ : Type} {l : Listener ρ} {s : Settings} {context : SpanContext} {x : Exchange ρ}
  {q : Request} {e : Event} {r : Rejection} {f : Fault} {k : Kind}

/-- The exchange once its event is read, whatever that gave. -/
def Exchange.consumed (x : Exchange ρ) : Exchange ρ :=
  { x with request := { x.request with body := (decode x.request.headers x.request.body).body } }

namespace Outcome

/-- The listener answers with one error page, and what comes of sending it is all that comes of the
request. -/
def SendsPage [HttpResponse ρ] (o : Outcome ρ) (x : Exchange ρ) (stage : Stage) (status : Int)
    (message : String) : Prop :=
  o.handled = none ∧
    o.answer = (do Exchange.respond (sendError status message); return stage).run x

/-- Nobody answers: the fault is left to the caller, and the response is as it was. -/
def Leaves (o : Outcome ρ) (x : Exchange ρ) (f : Fault) : Prop :=
  o.handled = none ∧ o.answer = .error f x

/-- The handler answers, and what comes of that is all that comes of the request. -/
def HandsOver (o : Outcome ρ) (handler : Handler ρ) (context : SpanContext) (x : Exchange ρ)
    (e : Event) : Prop :=
  o.handled = some e ∧ o.answer = (do handler context e; return Stage.handlerInvoked).run x

end Outcome

/-- What a fault is that says that there is no body. -/
def unreadKinds : List Kind := [.bodyUnread, .malformedLength, .emptyBody]

/-- What a fault is that says that the event is invalid. -/
def invalidKinds : List Kind :=
  [.malformedTimestamp, .missingAttribute, .unsupportedVersion, .decode]

/-- Every fault of reading an event is of one of these kinds. -/
theorem belongsTo_decode_iff :
    k.belongsTo .decode ↔ k = .unsupportedMode ∨ k ∈ unreadKinds ∨ k ∈ invalidKinds := by
  cases k with
  | io name =>
    simp only [Kind.belongsTo, Kind.lineage]
    split <;> simp [unreadKinds, invalidKinds, Kind.anyIo]
  | value name =>
    simp only [Kind.belongsTo, Kind.lineage]
    split <;> simp [unreadKinds, invalidKinds, Kind.anyValue]
  | _ => simp [Kind.belongsTo, Kind.lineage, unreadKinds, invalidKinds, Kind.anyValue, Kind.anyIo]

namespace Rejection

def unread : Rejection :=
  ⟨.decoding, Status.badRequest, emptyBodyMessage, "Could not read CloudEvent body"⟩

def structured : Rejection :=
  ⟨.decoding, Status.unsupportedMediaType, structuredMessage, "Rejecting CloudEvent request"⟩

def invalid (f : Fault) : Rejection :=
  ⟨.decoding, Status.badRequest, f.message, "Rejecting invalid CloudEvent"⟩

theorem ofFault?_of_unread (h : f.kind ∈ unreadKinds) : ofFault? s f = some unread := if_pos h

theorem ofFault?_of_structured (h : f.kind = .unsupportedMode) :
    ofFault? s f = some structured := by
  rw [ofFault?, h]
  rfl

theorem ofFault?_of_invalid (h : f.kind ∈ invalidKinds) :
    ofFault? s f = if s.rejectInvalid then some (invalid f) else none := by
  have hall : ∀ k ∈ invalidKinds, k ∉ unreadKinds ∧ k ≠ .unsupportedMode ∧ k.belongsTo .decode := by
    decide
  obtain ⟨hu, hm, hd⟩ := hall f.kind h
  have hu' : f.kind ∉ [Kind.bodyUnread, .malformedLength, .emptyBody] := hu
  simp only [ofFault?, if_neg hu', if_neg hm, hd, true_and]
  rfl

/-- Nothing is said to a fault that has to do with no event. -/
theorem ofFault?_of_foreign (h : ¬ f.kind.belongsTo .decode) : ofFault? s f = none := by
  have hk := h
  rw [belongsTo_decode_iff, not_or, not_or] at hk
  have hu : f.kind ∉ [Kind.bodyUnread, .malformedLength, .emptyBody] := hk.2.1
  rw [ofFault?, if_neg hu, if_neg hk.1, if_neg fun hd => h hd.1]

end Rejection

namespace Request

theorem result_readEvent_of_error (h : (decode q.headers q.body).result = .error f) :
    (q.readEvent s).result = .error f := by
  simp only [readEvent, h]

theorem result_readEvent_of_ok (h : (decode q.headers q.body).result = .ok e) :
    (q.readEvent s).result =
      if s.requireBody ∧ e.data = none then .error .emptyBody else .ok e := by
  simp only [readEvent, h, Bool.and_eq_true, Option.isNone_iff_eq_none]
  split
  · rfl
  · exact h

theorem body_readEvent (q : Request) (s : Settings) :
    (q.readEvent s).body = (decode q.headers q.body).body := by
  rw [readEvent]
  split
  · split <;> rfl
  · rfl

end Request

namespace Listener

theorem reached_of_allows (h : l.Allows x.request) : l.reached x = x.consumed := by
  rw [reached, if_pos h, Request.body_readEvent]
  rfl

theorem reached_of_not_allows (h : ¬ l.Allows x.request) : l.reached x = x := if_neg h

variable [HttpResponse ρ]

theorem sendsPage_of_rejects (h : l.Rejects x.request r f) (context : SpanContext) :
    (l.dispatch context x).SendsPage (l.reached x) r.stage r.status r.message :=
  have hr := dispatch_rejects h context
  ⟨hr.1, hr.2.1⟩

theorem leaves_of_passes (h : l.Passes x.request f) (context : SpanContext) :
    (l.dispatch context x).Leaves (l.reached x) f :=
  have hp := dispatch_passes h context
  ⟨hp.1, hp.2.1⟩

theorem handsOver_of_accepts (h : l.Accepts x.request e) (context : SpanContext) :
    (l.dispatch context x).HandsOver l.handler context (l.reached x) e :=
  have ha := dispatch_accepts h context
  ⟨ha.1, ha.2.1⟩

/-- A fault of reading an event that has its error page. -/
theorem sendsPage_of_ofFault? (ha : l.Allows x.request)
    (hf : (x.request.readEvent l.settings).result = .error f)
    (hr : Rejection.ofFault? l.settings f = some r) (context : SpanContext) :
    (l.dispatch context x).SendsPage x.consumed r.stage r.status r.message := by
  rw [← reached_of_allows ha]
  exact sendsPage_of_rejects (Or.inr ⟨ha, hf, hr⟩) context

theorem leaves_of_ofFault? (ha : l.Allows x.request)
    (hf : (x.request.readEvent l.settings).result = .error f)
    (hr : Rejection.ofFault? l.settings f = none) (context : SpanContext) :
    (l.dispatch context x).Leaves x.consumed f := by
  rw [← reached_of_allows ha]
  exact leaves_of_passes ⟨ha, hf, hr⟩ context

/-- What a request is answered with whose event cannot be read. -/
theorem ruled_of_error (ha : l.Allows x.request)
    (hd : (decode x.request.headers x.request.body).result = .error f) (context : SpanContext) :
    if f.kind = .unsupportedMode then
      (l.dispatch context x).SendsPage x.consumed .decoding 415
        "Structured content mode not supported"
    else if f.kind ∈ unreadKinds then
      (l.dispatch context x).SendsPage x.consumed .decoding 400 "Empty body in request"
    else if f.kind ∈ invalidKinds ∧ l.settings.rejectInvalid then
      (l.dispatch context x).SendsPage x.consumed .decoding 400 f.message
    else (l.dispatch context x).Leaves x.consumed f := by
  have hf : (x.request.readEvent l.settings).result = .error f :=
    Request.result_readEvent_of_error hd
  split
  case isTrue hm =>
    exact sendsPage_of_ofFault? ha hf (Rejection.ofFault?_of_structured hm) context
  case isFalse hm =>
    split
    case isTrue hu => exact sendsPage_of_ofFault? ha hf (Rejection.ofFault?_of_unread hu) context
    case isFalse hu =>
      split
      case isTrue hi =>
        refine sendsPage_of_ofFault? (r := .invalid f) ha hf ?_ context
        rw [Rejection.ofFault?_of_invalid hi.1, if_pos hi.2]
      case isFalse hi =>
        refine leaves_of_ofFault? ha hf ?_ context
        by_cases hk : f.kind ∈ invalidKinds
        · rw [Rejection.ofFault?_of_invalid hk, if_neg fun hr => hi ⟨hk, hr⟩]
        · refine Rejection.ofFault?_of_foreign ?_
          rw [belongsTo_decode_iff, not_or, not_or]
          exact ⟨hm, hu, hk⟩

/-- What a request is answered with whose event can be read. -/
theorem ruled_of_ok (ha : l.Allows x.request)
    (hd : (decode x.request.headers x.request.body).result = .ok e) (context : SpanContext) :
    if l.settings.requireBody ∧ e.data = none then
      (l.dispatch context x).SendsPage x.consumed .decoding 400 "Empty body in request"
    else (l.dispatch context x).HandsOver l.handler context x.consumed e := by
  have hread := Request.result_readEvent_of_ok (s := l.settings) hd
  split
  case isTrue hb =>
    rw [if_pos hb] at hread
    have hempty : Fault.emptyBody.kind ∈ unreadKinds := by decide
    exact sendsPage_of_ofFault? ha hread (Rejection.ofFault?_of_unread hempty) context
  case isFalse hb =>
    rw [if_neg hb] at hread
    rw [← reached_of_allows ha]
    exact handsOver_of_accepts ⟨ha, hread⟩ context

/-- A request is answered by the first rule that applies. With a method that is not allowed nothing
is read of it, and an event that is invalid is answered as that, whether or not it has a payload. -/
theorem dispatch_ruled (l : Listener ρ) (context : SpanContext) (x : Exchange ρ) :
    (¬ l.Allows x.request →
      (l.dispatch context x).SendsPage x .awaitingRequest 501 "Method not implemented") ∧
    (l.Allows x.request →
      (∀ f, (decode x.request.headers x.request.body).result = .error f →
        if f.kind = .unsupportedMode then
          (l.dispatch context x).SendsPage x.consumed .decoding 415
            "Structured content mode not supported"
        else if f.kind ∈ unreadKinds then
          (l.dispatch context x).SendsPage x.consumed .decoding 400 "Empty body in request"
        else if f.kind ∈ invalidKinds ∧ l.settings.rejectInvalid then
          (l.dispatch context x).SendsPage x.consumed .decoding 400 f.message
        else (l.dispatch context x).Leaves x.consumed f) ∧
      ∀ e, (decode x.request.headers x.request.body).result = .ok e →
        if l.settings.requireBody ∧ e.data = none then
          (l.dispatch context x).SendsPage x.consumed .decoding 400 "Empty body in request"
        else (l.dispatch context x).HandsOver l.handler context x.consumed e) := by
  constructor
  · intro ha
    have hpage := sendsPage_of_rejects (Or.inl ⟨ha, rfl, rfl⟩) context
    rwa [reached_of_not_allows ha] at hpage
  · intro ha
    exact ⟨fun f hd => ruled_of_error ha hd context, fun e hd => ruled_of_ok ha hd context⟩

/-- A listener that rejects invalid events, does nothing with the others, and is recorded. -/
def recordedListener : Listener Recorder :=
  ⟨⟨Settings.defaultMethods, false, true, Settings.defaultTracer⟩, fun _ _ => pure ()⟩

/-- A post of an order whose body fails as it is read. -/
def failingRequest (f : Fault) : Request where
  method := .text "POST"
  headers := .ofList [("ce-id", .text "abc-1"), ("ce-source", .text "/orders"),
    ("ce-specversion", .text "1.0"), ("ce-type", .text "com.example.order.created")]
  body := ⟨.scripted [.fault f], #[]⟩

/-- Such a post with a response that takes every call. -/
def failingExchange (f : Fault) : Exchange Recorder := ⟨failingRequest f, { plan := fun _ => none }⟩

/-- What a stream raises may be of a kind that is otherwise raised only about events. It is answered
like a fault of that kind, although decoding never finds one. -/
theorem ruled_otherwise_failing :
    (decode (failingRequest (.stated .emptyBody "e")).headers
      (failingRequest (.stated .emptyBody "e")).body).result = .error (.stated .emptyBody "e") ∧
    (recordedListener.dispatch .absent (failingExchange (.stated .emptyBody "e"))).result =
      .ok .decoding ∧
    (recordedListener.dispatch .absent
      (failingExchange (.stated .emptyBody "e"))).exchange.response.calls =
      [.sendError 400 "Empty body in request"] ∧
    (decode (failingRequest (.stated .decode "d")).headers
      (failingRequest (.stated .decode "d")).body).result = .error (.stated .decode "d") ∧
    (recordedListener.dispatch .absent (failingExchange (.stated .decode "d"))).result =
      .ok .decoding ∧
    (recordedListener.dispatch .absent
      (failingExchange (.stated .decode "d"))).exchange.response.calls = [.sendError 400 "d"] ∧
    Kind.emptyBody ∉ faultKinds ∧ Kind.decode ∉ faultKinds := by
  refine ⟨?_, ?_, ?_, ?_, ?_, ?_, ?_, ?_⟩ <;> decide +kernel

end Listener

end CloudEvents
