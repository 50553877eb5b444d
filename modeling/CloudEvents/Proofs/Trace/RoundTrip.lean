import CloudEvents.Proofs.Listener.Record
import CloudEvents.Proofs.Trace.Carrier
import CloudEvents.Proofs.Trace.Parent
import CloudEvents.Proofs.Trace.State

/-! Trace contexts on their way through an event, its headers and a span. -/
namespace CloudEvents

open Attribute Binary

variable {ρ : Type} {e f : Event} {c : SpanContext} {body : BodyStream} {l : Listener ρ}
  {x : Exchange ρ}

namespace Event

/-- A context that can be sent is found in the event that it was put into. -/
theorem traceContext?_withTrace (hc : c.Valid) (hf : c.flags ≤ 255)
    (hs : TraceState.Valid c.state) (e : Event) :
    (e.withTrace c).traceContext? = some { c with remote := true } := by
  have hext : (e.withTrace c).extensions = carry c e.extensions := by rw [withTrace, if_pos hc]
  have hstate : (((carry c e.extensions).get? traceState).map TraceState.read).getD [] =
      c.state := by
    rw [get?_traceState_carry]
    split
    next hnil => exact hnil.symm
    next => exact TraceState.read_write hs
  simp only [traceContext?, hext, get?_traceParent_carry, TraceParent.read_write hc hf, hstate,
    bind, Option.bind]

theorem traceContext?_congr
    (h : ∀ name ∈ traceNames, e.extensions.get? name = f.extensions.get? name) :
    e.traceContext? = f.traceContext? := by
  rw [traceContext?, traceContext?, h traceParent (by decide), h traceState (by decide)]

end Event

namespace Binary

/-- Whatever the body, an event read from the headers of another one has its extensions. -/
theorem extensions_of_decode_sent (h : e.WellFormed)
    (hd : (decode (sent e) body).result = .ok f) : f.extensions = e.extensions.erase "" := by
  have harrived := Event.wellFormed_arrived h
  obtain ⟨-, time, bytes, rest, -, -, hbuild⟩ := result_decode_eq_ok_iff.1 hd
  have hy := (Draft.build_eq_ok_iff.1 hbuild).extensions
  rw [mapKeys_sent h] at hy
  have hext : (draft (sent e) time bytes).extensions = (e.extensions.erase "").map .text :=
    extensions_sent h
  rw [hext] at hy
  exact Except.ok.inj (hy.symm.trans
    (Draft.checkExtensions_text harrived.lowercase harrived.notReserved))

theorem traceContext?_of_decode_sent (h : e.WellFormed)
    (hd : (decode (sent e) body).result = .ok f) : f.traceContext? = e.traceContext? := by
  have hnamed : ∀ name ∈ Event.traceNames, name ≠ "" := by decide
  refine Event.traceContext?_congr fun name hn => ?_
  rw [extensions_of_decode_sent h hd, OrderedMap.get?_erase_of_ne _ (hnamed name hn)]

end Binary

namespace Listener

/-- An event that was sent is accepted if its payload is, and is then the event that arrives. -/
theorem accepts_sent (hread : (reread (rendered e)).result = .ok e.arrived)
    (ha : l.Allows x.request) (hh : x.request.headers = sent e)
    (hb : x.request.body = .ofBytes (rendered e).body)
    (hr : l.settings.requireBody → (rendered e).body ≠ []) :
    l.Accepts x.request e.arrived := by
  have hd : (decode x.request.headers x.request.body).result = .ok e.arrived := by
    rw [hh, hb]
    exact hread
  have hdata : ¬ (l.settings.requireBody ∧ e.arrived.data = none) := by
    rintro ⟨hreq, hnone⟩
    refine hr hreq ?_
    rw [body_rendered, payload]
    cases hbytes : e.data with
    | none => rfl
    | some bytes => simpa [Event.arrived, hbytes] using hnone
  have hresult := Request.result_readEvent_of_ok (s := l.settings) hd
  rw [if_neg hdata] at hresult
  exact ⟨ha, hresult⟩

theorem links_of_accepts [HttpResponse ρ] (h : l.Accepts x.request f) (own : SpanContext) :
    (l.dispatch own x).span.links = f.traceContext?.toList := by
  rw [links_span, party_eq_handler_iff.2 h]
  rfl

/-- The span of a request that carries an event with a context links to that context. -/
theorem links_of_sent [HttpResponse ρ] (hw : e.WellFormed) (hc : e.traceContext? = some c)
    (hh : x.request.headers = sent e) (h : l.Accepts x.request f) (own : SpanContext) :
    (l.dispatch own x).span.links = [c] := by
  have hd := decode_of_accepts h
  rw [hh] at hd
  rw [links_of_accepts h, traceContext?_of_decode_sent hw hd, hc]
  rfl

end Listener

namespace Event

/-- A context that is put into an event is read back from what is written of the event, and it is
what the span of a request with those headers links to. -/
theorem Arises.reread_withTrace (he : e.Arises) (hm : isStructured e.dataContentType = .ok false)
    (ht : ∀ t ∈ e.time, t.WholeMinutes) (hfits : e.Fits) (hc : c.Valid) (hf : c.flags ≤ 255)
    (hs : TraceState.Valid c.state) :
    ∃ r, (encode (e.withTrace c) : EStateM Fault BufferedResponse Unit).run {} = .ok () r ∧
      (∃ f, (reread r).result = .ok f ∧ f.traceContext? = some { c with remote := true }) ∧
      ∀ (ρ : Type) [HttpResponse ρ] (l : Listener ρ) (own : SpanContext) (x : Exchange ρ),
        x.request.headers = .ofList r.headers →
        (∀ f, l.Accepts x.request f →
          (l.dispatch own x).span.links = [{ c with remote := true }]) ∧
        (l.Allows x.request → x.request.body = .ofBytes r.body →
          (l.settings.requireBody → r.body ≠ []) →
          (l.dispatch own x).span.links = [{ c with remote := true }]) := by
  have hw := (he.traced c).wellFormed
  have htrace := traceContext?_withTrace hc hf hs e
  have hread : (reread (rendered (e.withTrace c))).result = .ok (e.withTrace c).arrived := by
    have htraced : e.withTrace c = { e with extensions := carry c e.extensions } := if_pos hc
    rw [htraced] at hw ⊢
    exact reread_rendered hw (checkMode_of_ok hm) ht hfits
  refine ⟨_, run_encode _, ⟨_, hread, ?_⟩, ?_⟩
  · exact (traceContext?_of_decode_sent hw hread).trans htrace
  · intro ρ _ l own x hh
    refine ⟨fun f h => Listener.links_of_sent hw htrace hh h own, fun ha hb hr => ?_⟩
    exact Listener.links_of_sent hw htrace hh (Listener.accepts_sent hread ha hh hb hr) own

/-- The context of a span that went through two other systems. -/
def parcelContext : SpanContext where
  traceId := 0x4bf92f3577b34da6a3ce929d0e0e4736
  spanId := 0xf067aa0ba902b7
  state := [("rojo", "00f067aa0ba902b7"), ("t61@congo", " lZWRz")]

/-- The trace of an order that came through a shop is replaced by one of two systems. -/
theorem reread_withTrace_parcel :
    ∃ r, (encode ((orderEvent.withTrace shopContext).withTrace parcelContext) :
        EStateM Fault BufferedResponse Unit).run {} = .ok () r ∧
      (∃ f, (reread r).result = .ok f ∧
        f.traceContext? = some { parcelContext with remote := true }) ∧
      ∀ (l : Listener BufferedResponse) (own : SpanContext) (x : Exchange BufferedResponse),
        x.request.headers = .ofList r.headers → l.Allows x.request →
        x.request.body = .ofBytes r.body → (l.settings.requireBody → r.body ≠ []) →
        (l.dispatch own x).span.links = [{ parcelContext with remote := true }] := by
  have hbuild : orderDraft.build = .ok orderEvent := by decide +kernel
  have hmode : isStructured (orderEvent.withTrace shopContext).dataContentType = .ok false := by
    decide +kernel
  have htime : ∀ t ∈ (orderEvent.withTrace shopContext).time, t.WholeMinutes := by
    rintro t ⟨⟩
    decide
  have hfits : (orderEvent.withTrace shopContext).Fits := by
    rintro bytes ⟨⟩
    decide
  have hstate : TraceState.Valid parcelContext.state := ⟨by decide, by decide, by decide⟩
  obtain ⟨r, hr, hread, hlinks⟩ := ((Arises.built hbuild).traced shopContext).reread_withTrace
    hmode htime hfits (by decide) (by decide) hstate
  exact ⟨r, hr, hread, fun l own x hh ha hb hreq => (hlinks _ l own x hh).2 ha hb hreq⟩

end Event

end CloudEvents
