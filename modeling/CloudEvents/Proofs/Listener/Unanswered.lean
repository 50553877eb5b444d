import CloudEvents.Proofs.Binary.Refusals
import CloudEvents.Proofs.Listener.Answer
import CloudEvents.Response.Buffered

/-! Requests that nobody answers although invalid events are rejected. -/
namespace CloudEvents

open Binary HttpResponse
open Fault (Kind)

variable {ρ : Type} {l : Listener ρ} {s : Settings} {q : Request} {f : Fault} {k : Kind}
  {g : OrderedMap String} {body : BodyStream}

theorem belongsTo_decode_of_mem (h : k ∈ faultKinds) : k.belongsTo .decode := by
  have hall : ∀ k ∈ faultKinds, k.belongsTo .decode := by decide
  exact hall k h

theorem not_belongsTo_decode_of_mem (h : k ∈ Body.limitKinds) : ¬ k.belongsTo .decode := by
  have hall : ∀ k ∈ Body.limitKinds, ¬ k.belongsTo .decode := by decide
  exact hall k h

theorem notMem_faultKinds_of_mem (h : k ∈ Body.limitKinds) : k ∉ faultKinds := fun hk =>
  not_belongsTo_decode_of_mem h (belongsTo_decode_of_mem hk)

/-- Every fault of reading an event has its error page. -/
theorem Rejection.ofFault?_eq_none_iff (hr : s.rejectInvalid) :
    ofFault? s f = none ↔ ¬ f.kind.belongsTo .decode := by
  have hnamed : ∀ k ∈ [Kind.bodyUnread, .malformedLength, .emptyBody, .unsupportedMode],
      k.belongsTo .decode := by
    decide
  rw [ofFault?]
  split
  · rename_i hk
    have := hnamed f.kind (List.mem_append_left [Kind.unsupportedMode] hk)
    simp [this]
  · split
    · rename_i hk
      have := hnamed f.kind (by simp [hk])
      simp [this]
    · split
      · rename_i hk
        simp [hk.1]
      · rename_i hk
        simpa [hr] using hk

/-- Holds of the responses whose error pages never fail. -/
def SendsErrors (ρ : Type) [HttpResponse ρ] : Prop :=
  ∀ status message (r : ρ), ∃ r',
    (sendError status message : EStateM Fault ρ Unit).run r = .ok () r'

theorem sendsErrors_buffered : SendsErrors BufferedResponse := fun _ _ _ => ⟨_, rfl⟩

namespace Listener

/-- Nothing is said to the faults of reading an event that are not faults of what was sent. -/
theorem passes_iff (hr : l.settings.rejectInvalid) : l.Passes q f ↔
    l.Allows q ∧ (decode q.headers q.body).result = .error f ∧ ¬ f.kind.belongsTo .decode := by
  have hempty : Kind.emptyBody.belongsTo .decode := by decide
  rw [Passes, Rejection.ofFault?_eq_none_iff hr]
  refine and_congr_right fun _ => and_congr_left fun hk => ?_
  cases hd : (decode q.headers q.body).result with
  | error g => simp only [Request.readEvent, hd]
  | ok e =>
    by_cases hb : l.settings.requireBody && e.data.isNone
    -- the lack of a payload is itself a fault of reading, and gets its error page
    · simp only [Request.readEvent, hd, hb, if_true, Except.error.injEq, reduceCtorEq, iff_false]
      rintro rfl
      exact hk hempty
    · simp only [Request.readEvent, hd, hb, Bool.false_eq_true, if_false]

theorem passes_iff_overasks (hs : body.source.Sound) (hr : l.settings.rejectInvalid)
    {method : Scalar} : (∃ f, l.Passes ⟨method, g.map .text, body⟩ f) ↔
      l.Allows ⟨method, g.map .text, body⟩ ∧ Overasks g body := by
  simp only [passes_iff hr]
  constructor
  · rintro ⟨f, ha, hd, hk⟩
    rcases kind_of_decode hs hd with hf | ⟨ho, -⟩
    · exact absurd (belongsTo_decode_of_mem hf) hk
    · exact ⟨ha, ho⟩
  · rintro ⟨ha, ho⟩
    obtain ⟨f, hd, hk⟩ := decode_of_overasks ho
    exact ⟨f, ha, hd, not_belongsTo_decode_of_mem hk⟩

variable [HttpResponse ρ]

/-- A request without an answer is one that nothing is said to. -/
theorem unanswered_iff (hp : SendsErrors ρ) (context : SpanContext) (x : Exchange ρ) :
    (∃ f, (l.dispatch context x).result = .error f ∧ (l.dispatch context x).handled = none) ↔
      ∃ f, l.Passes x.request f := by
  constructor
  · rintro ⟨f, hf, hnone⟩
    cases hparty : l.party x.request with
    | handler e =>
      rw [(dispatch_accepts (party_eq_handler_iff.1 hparty) context).1] at hnone
      cases hnone
    | listener r h =>
      obtain ⟨y, hy⟩ := ((result_of_rejects (party_eq_listener_iff.1 hparty) context).2 f).1 hf
      obtain ⟨z, hz⟩ := hp r.status r.message x.response
      rw [hz] at hy
      cases hy
    | caller h => exact ⟨h, party_eq_caller_iff.1 hparty⟩
  · rintro ⟨f, hf⟩
    exact ⟨f, result_of_passes hf context, (dispatch_passes hf context).1⟩

/-- Reading an event fails as it is said to, and a listener that rejects invalid events leaves no
request without an answer, unless a body is asked for by an overlong length. -/
theorem fails_as_said_iff (hs : body.source.Sound) :
    ((∀ f, (decode (g.map .text) body).result = .error f → f.kind ∈ faultKinds) ↔
      ¬ Overasks g body) ∧
    ∀ (l : Listener ρ) context method response, l.settings.rejectInvalid → SendsErrors ρ →
      ((∀ f, (l.dispatch context ⟨⟨method, g.map .text, body⟩, response⟩).result = .error f →
        (l.dispatch context ⟨⟨method, g.map .text, body⟩, response⟩).handled.isSome) ↔
      ¬ (l.Allows ⟨method, g.map .text, body⟩ ∧ Overasks g body)) := by
  constructor
  · constructor
    · intro hall ho
      obtain ⟨f, hd, hk⟩ := decode_of_overasks ho
      exact notMem_faultKinds_of_mem hk (hall f hd)
    · intro ho f hd
      exact (kind_of_decode hs hd).resolve_right fun h => ho h.1
  · intro l context method response hr hp
    rw [← passes_iff_overasks hs hr, ← unanswered_iff hp context ⟨_, response⟩]
    simp only [not_exists, not_and, ← Option.isSome_iff_ne_none]

/-- An order under a declared length. -/
def countedRequest (length : String) : OrderedMap String := .ofList [
  ("ce-id", "abc-1"), ("ce-source", "/orders"), ("ce-specversion", "1.0"),
  ("ce-type", "com.example.order.created"), (Attribute.contentLength, length)]

/-- A listener that rejects invalid events and does nothing with the others. -/
def strictListener : Listener BufferedResponse :=
  ⟨⟨Settings.defaultMethods, false, true, Settings.defaultTracer⟩, fun _ _ => pure ()⟩

/-- A post of two bytes under a declared length. -/
def countedExchange (length : String) : Exchange BufferedResponse :=
  ⟨⟨.text "POST", (countedRequest length).map .text, .ofBytes [104, 105]⟩, {}⟩

theorem mapKeys_countedRequest (length : String) :
    (countedRequest length).mapKeys Text.lowercase = countedRequest length := by
  have hkeys : (countedRequest length).keys =
      ["ce-id", "ce-source", "ce-specversion", "ce-type", Attribute.contentLength] := rfl
  have hall : ∀ n ∈ ["ce-id", "ce-source", "ce-specversion", "ce-type", Attribute.contentLength],
      Text.isAsciiLower n := by
    decide
  refine OrderedMap.mapKeys_eq_self fun name hn => Text.lowercase_of_isAsciiLower (hall name ?_)
  rwa [← hkeys]

/-- Such a request asks for too much exactly when its length is overlong. -/
theorem overasks_countedRequest_iff {length : String} :
    Overasks (countedRequest length) body ↔ Body.Overlong length body := by
  have hget : (countedRequest length).get? Attribute.contentLength = some length := rfl
  constructor
  · rintro ⟨-, -, s, hs, ho⟩
    rw [mapKeys_countedRequest, hget] at hs
    cases hs
    exact ho
  · intro ho
    refine ⟨?_, ⟨none, ?_⟩, length, ?_, ho⟩
    · rw [OrderedMap.mapKeys_map, mapKeys_countedRequest]
      rfl
    · rw [OrderedMap.mapKeys_map, mapKeys_countedRequest]
      rfl
    · rw [mapKeys_countedRequest, hget]

theorem fails_as_said_counted :
    (BodyStream.ofBytes [104, 105]).source.Sound ∧
    (∀ f, (decode ((countedRequest "2").map .text) (.ofBytes [104, 105])).result = .error f →
      f.kind ∈ faultKinds) ∧
    strictListener.settings.rejectInvalid ∧ SendsErrors BufferedResponse ∧
    ∀ f, (strictListener.dispatch .absent (countedExchange "2")).result = .error f →
      (strictListener.dispatch .absent (countedExchange "2")).handled.isSome := by
  have hs : (BodyStream.ofBytes [104, 105]).source.Sound := trivial
  have hnot : ¬ Overasks (countedRequest "2") (.ofBytes [104, 105]) := by
    rw [overasks_countedRequest_iff]
    decide
  obtain ⟨hdecode, hdispatch⟩ :=
    fails_as_said_iff (ρ := BufferedResponse) (g := countedRequest "2") hs
  exact ⟨hs, hdecode.2 hnot, rfl, sendsErrors_buffered,
    (hdispatch strictListener .absent (.text "POST") {} rfl sendsErrors_buffered).2
      fun h => hnot h.2⟩

/-- A count that does not index memory is a number like any other, but reading the event fails with
none of what it is said to fail with, and nobody answers the request. -/
theorem fails_otherwise_counted :
    (BodyStream.ofBytes [104, 105]).source.Sound ∧
    (decode ((countedRequest "9223372036854775808").map .text) (.ofBytes [104, 105])).result =
      .error .indexLimit ∧
    Fault.indexLimit.kind ∉ faultKinds ∧
    (strictListener.dispatch .absent (countedExchange "9223372036854775808")).result =
      .error .indexLimit ∧
    (strictListener.dispatch .absent (countedExchange "9223372036854775808")).handled = none := by
  have hdecode : (decode ((countedRequest "9223372036854775808").map .text)
      (.ofBytes [104, 105])).result = .error .indexLimit := by
    decide +kernel
  have hpasses : strictListener.Passes (countedExchange "9223372036854775808").request
      .indexLimit :=
    (passes_iff rfl).2 ⟨by decide, hdecode, by decide⟩
  exact ⟨trivial, hdecode, by decide, result_of_passes hpasses .absent,
    (dispatch_passes hpasses .absent).1⟩

end Listener

end CloudEvents
