import CloudEvents.Proofs.Listener.Rules

/-! Two listeners that differ in one switch, at the same request. -/
namespace CloudEvents

open Binary HttpResponse
open Fault (Kind)

variable {ρ : Type} {l m : Listener ρ} {context : SpanContext} {x : Exchange ρ} {q : Request}
  {e : Event} {f : Fault} {on off : Bool}

namespace Listener

def withRejectInvalid (l : Listener ρ) (on : Bool) : Listener ρ :=
  { l with settings := { l.settings with rejectInvalid := on } }

def withRequireBody (l : Listener ρ) (on : Bool) : Listener ρ :=
  { l with settings := { l.settings with requireBody := on } }

/-- Reading the event of a request that is allowed fails. -/
def Fails (l : Listener ρ) (q : Request) (f : Fault) : Prop :=
  l.Allows q ∧ (q.readEvent l.settings).result = .error f

/-- What a listener does depends on its methods, on what reading the event gives, and on what is
said to a fault of that. -/
theorem dispatch_congr [HttpResponse ρ] (hh : m.handler = l.handler)
    (ht : m.settings.tracerName = l.settings.tracerName)
    (hm : m.settings.allowedMethods = l.settings.allowedMethods)
    (hr : l.Allows x.request → x.request.readEvent m.settings = x.request.readEvent l.settings)
    (hf : ∀ f, l.Fails x.request f →
      Rejection.ofFault? m.settings f = Rejection.ofFault? l.settings f) :
    m.dispatch context x = l.dispatch context x := by
  have hmethod : m.settings.checkMethod x.request.method =
      l.settings.checkMethod x.request.method := by
    rw [Settings.checkMethod, Settings.checkMethod, hm]
  by_cases ha : l.Allows x.request
  · rw [dispatch, dispatch, hmethod, ht, checkMethod_of_allows ha]
    dsimp only
    rw [hr ha]
    cases hd : (x.request.readEvent l.settings).result with
    | ok e => simp only [handOver, hh]
    | error f => simp only [hf f ⟨ha, hd⟩]
  · rw [dispatch, dispatch, hmethod, ht, checkMethod_of_not_allows ha]

/-- What is said to a fault depends on the switch only where an event is invalid. -/
theorem ofFault?_withRejectInvalid (hk : f.kind ∉ invalidKinds) :
    Rejection.ofFault? (l.withRejectInvalid on).settings f =
      Rejection.ofFault? (l.withRejectInvalid off).settings f := by
  by_cases hd : f.kind.belongsTo .decode
  · rcases belongsTo_decode_iff.1 hd with hm | hu | hi
    · rw [Rejection.ofFault?_of_structured hm, Rejection.ofFault?_of_structured hm]
    · rw [Rejection.ofFault?_of_unread hu, Rejection.ofFault?_of_unread hu]
    · exact absurd hi hk
  · rw [Rejection.ofFault?_of_foreign hd, Rejection.ofFault?_of_foreign hd]

/-- A listener that asks for payloads reads an event as one that does not, if the event has one. -/
theorem readEvent_withRequireBody
    (h : ∀ e, (decode q.headers q.body).result = .ok e → e.data ≠ none) :
    q.readEvent (l.withRequireBody on).settings = q.readEvent (l.withRequireBody off).settings := by
  cases hd : (decode q.headers q.body).result with
  | error f => simp only [Request.readEvent, hd]
  | ok e =>
    have hdata : e.data.isNone = false :=
      Option.isNone_eq_false_iff.2 (Option.isSome_iff_ne_none.2 (h e hd))
    simp only [Request.readEvent, hd, hdata, Bool.and_false, Bool.false_eq_true, if_false]

/-- A listener that does not ask for payloads accepts every event that can be read. -/
theorem accepts_withRequireBody (ha : l.Allows q) (hd : (decode q.headers q.body).result = .ok e) :
    (l.withRequireBody false).Accepts q e := by
  have hread := Request.result_readEvent_of_ok (s := (l.withRequireBody false).settings) hd
  rw [if_neg fun h => Bool.false_ne_true h.1] at hread
  exact ⟨ha, hread⟩

variable [HttpResponse ρ]

theorem dispatch_withRejectInvalid
    (h : ∀ f, l.Fails x.request f → f.kind ∉ invalidKinds) :
    (l.withRejectInvalid on).dispatch context x = (l.withRejectInvalid off).dispatch context x :=
  dispatch_congr rfl rfl rfl (fun _ => rfl) fun f hf => ofFault?_withRejectInvalid (h f hf)

theorem leaves_of_invalid (h : l.Fails x.request f) (hk : f.kind ∈ invalidKinds) :
    ((l.withRejectInvalid false).dispatch context x).Leaves x.consumed f :=
  leaves_of_ofFault? (l := l.withRejectInvalid false) h.1 h.2 (Rejection.ofFault?_of_invalid hk)
    context

theorem sendsPage_of_invalid (h : l.Fails x.request f) (hk : f.kind ∈ invalidKinds) :
    ((l.withRejectInvalid true).dispatch context x).SendsPage x.consumed .decoding 400 f.message :=
  sendsPage_of_ofFault? (l := l.withRejectInvalid true) h.1 h.2 (Rejection.ofFault?_of_invalid hk)
    context

theorem dispatch_withRequireBody
    (h : ∀ e, (l.withRequireBody false).Accepts x.request e → e.data ≠ none) :
    (l.withRequireBody true).dispatch context x = (l.withRequireBody false).dispatch context x :=
  dispatch_congr rfl rfl rfl
    (fun ha => readEvent_withRequireBody fun e hd => h e (accepts_withRequireBody ha hd))
    fun _ _ => rfl

theorem sendsPage_of_empty (h : (l.withRequireBody false).Accepts x.request e)
    (he : e.data = none) :
    ((l.withRequireBody true).dispatch context x).SendsPage x.consumed .decoding 400
      "Empty body in request" := by
  have hruled := ruled_of_ok (l := l.withRequireBody true) h.1 (decode_of_accepts h) context
  rwa [if_pos ⟨rfl, he⟩] at hruled

/-- Each switch decides about the requests it is for, and about no others. To reject invalid events
makes a difference where reading an event finds it invalid, and none to what the handler raises. To
ask for payloads makes a difference where the handler would be given an event without one. -/
theorem dispatch_switched (l : Listener ρ) (context : SpanContext) (x : Exchange ρ) :
    (∀ f, l.Fails x.request f → f.kind ∈ invalidKinds →
      ((l.withRejectInvalid false).dispatch context x).Leaves x.consumed f ∧
      ((l.withRejectInvalid true).dispatch context x).SendsPage x.consumed .decoding 400
        f.message) ∧
    ((∀ f, l.Fails x.request f → f.kind ∉ invalidKinds) →
      (l.withRejectInvalid true).dispatch context x =
        (l.withRejectInvalid false).dispatch context x) ∧
    (∀ e, ((l.withRejectInvalid false).dispatch context x).handled = some e →
      (l.withRejectInvalid true).dispatch context x =
        (l.withRejectInvalid false).dispatch context x) ∧
    (∀ e, ((l.withRequireBody false).dispatch context x).handled = some e → e.data = none →
      ((l.withRequireBody true).dispatch context x).SendsPage x.consumed .decoding 400
        "Empty body in request") ∧
    ((∀ e, ((l.withRequireBody false).dispatch context x).handled = some e → e.data ≠ none) →
      (l.withRequireBody true).dispatch context x =
        (l.withRequireBody false).dispatch context x) := by
  refine ⟨?_, dispatch_withRejectInvalid, ?_, ?_, ?_⟩
  · exact fun f h hk => ⟨leaves_of_invalid h hk, sendsPage_of_invalid h hk⟩
  · intro e he
    refine dispatch_withRejectInvalid fun f hf => ?_
    have hread := (accepts_of_handled he).2.symm.trans hf.2
    cases hread
  · exact fun e he => sendsPage_of_empty (accepts_of_handled he)
  · exact fun h => dispatch_withRequireBody fun e he => h e (dispatch_accepts he context).1

/-- A stream may raise the general fault of decoding, which is none of the three that decoding finds
in an event. The switch decides about it all the same. -/
theorem switched_otherwise_failing :
    recordedListener.Fails (failingRequest (.stated .decode "d")) (.stated .decode "d") ∧
    ((recordedListener.withRejectInvalid false).dispatch .absent
      (failingExchange (.stated .decode "d"))).result = .error (.stated .decode "d") ∧
    ((recordedListener.withRejectInvalid false).dispatch .absent
      (failingExchange (.stated .decode "d"))).exchange.response.calls = [] ∧
    ((recordedListener.withRejectInvalid true).dispatch .absent
      (failingExchange (.stated .decode "d"))).result = .ok .decoding ∧
    ((recordedListener.withRejectInvalid true).dispatch .absent
      (failingExchange (.stated .decode "d"))).exchange.response.calls = [.sendError 400 "d"] ∧
    Kind.decode ∉ [Kind.malformedTimestamp, .missingAttribute, .unsupportedVersion] := by
  refine ⟨⟨?_, ?_⟩, ?_, ?_, ?_, ?_, ?_⟩ <;> decide +kernel

end Listener

end CloudEvents
