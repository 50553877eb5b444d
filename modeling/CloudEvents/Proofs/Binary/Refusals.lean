import CloudEvents.Proofs.Binary.Stages
import CloudEvents.Proofs.Body.Faults
import CloudEvents.Proofs.Time.Reading

/-! What goes wrong while an event is read from headers that are texts. -/
namespace CloudEvents

open Attribute Text
open Fault (Kind)

variable {g : OrderedMap String} {m : OrderedMap Scalar} {body : BodyStream} {f : Fault}
  {moment : Option Timestamp} {bytes : List UInt8}

namespace Binary

/-- What reading an event is said to fail with. -/
def faultKinds : List Kind :=
  [.unsupportedMode, .malformedTimestamp, .missingAttribute, .unsupportedVersion] ++
    Body.faultKinds

theorem header_map_text (g : OrderedMap String) (name : String) :
    header (g.map .text) name = ((g.get? name).map .text).getD .null := by
  rw [header, OrderedMap.get?_map]

theorem kind_of_checkMode (h : checkMode (header (g.map .text) contentType) = .error f) :
    f.kind = .unsupportedMode := by
  rw [header_map_text] at h
  cases hv : g.get? contentType with
  | none =>
    rw [hv] at h
    cases h
  | some s =>
    rw [hv, Option.map_some, Option.getD_some, checkMode_of_ok (isStructured_text s)] at h
    split at h
    · cases h
      rfl
    · cases h

theorem kind_of_optional_readTime {o : Option String}
    (h : Draft.optional readTime (o.map .text) = .error f) : f.kind = .malformedTimestamp := by
  rw [optional_readTime] at h
  cases o with
  | none => cases h
  | some s =>
    rw [Draft.optional] at h
    cases hr : Rfc3339.read s with
    | error g =>
      rw [hr] at h
      cases h
      exact Rfc3339.kind_of_read hr
    | ok t =>
      rw [hr] at h
      cases h

theorem kind_of_build_draft (hl : ∀ name ∈ m.keys, lowercase name = name)
    (h : (draft m moment bytes).build = .error f) :
    f.kind = .missingAttribute ∨ f.kind = .unsupportedVersion :=
  Draft.kind_of_build ⟨_, optional_stamp moment⟩ ⟨_, optional_bytes bytes⟩
    ⟨_, checkExtensions_extensions hl⟩ h

/-- Holds of the requests whose body is asked for by an overlong length. -/
structure Overasks (g : OrderedMap String) (body : BodyStream) : Prop where
  mode : checkMode (header ((g.map .text).mapKeys lowercase) contentType) = .ok ()
  time : ∃ t, Draft.optional readTime (((g.map .text).mapKeys lowercase).get? timeHeader) = .ok t
  length : ∃ s, (g.mapKeys lowercase).get? contentLength = some s ∧ Body.Overlong s body

/-- Without a length the stream alone makes reading fail, and with one the length may. -/
theorem kind_of_read_header (hs : body.source.Sound) {rest : BodyStream}
    (h : (Body.read (header (g.map .text) contentLength)).run body = .error f rest) :
    f.kind ∈ Body.faultKinds ∨
      (∃ s, g.get? contentLength = some s ∧ Body.Overlong s body) ∧ f.kind ∈ Body.limitKinds := by
  rw [header_map_text] at h
  cases hv : g.get? contentLength with
  | none =>
    rw [hv] at h
    rw [Body.kind_of_drain hs h]
    exact Or.inl (by decide)
  | some s =>
    rw [hv, Option.map_some, Option.getD_some] at h
    exact (Body.kind_of_run_read hs h).imp_right fun ho => ⟨⟨s, rfl, ho.1⟩, ho.2⟩

/-- Reading an event fails as it is said to, or else it asks for too much. -/
theorem kind_of_decode (hs : body.source.Sound)
    (h : (decode (g.map .text) body).result = .error f) :
    f.kind ∈ faultKinds ∨ Overasks g body ∧ f.kind ∈ Body.limitKinds := by
  rcases result_decode_eq_error_iff.1 h with hm | ⟨hm, ht | ⟨t, ht, ⟨rest, hr⟩ |
    ⟨bytes, rest, -, hb⟩⟩⟩
  · rw [OrderedMap.mapKeys_map] at hm
    rw [kind_of_checkMode hm]
    exact Or.inl (by decide)
  · rw [OrderedMap.mapKeys_map, OrderedMap.get?_map] at ht
    rw [kind_of_optional_readTime ht]
    exact Or.inl (by decide)
  · rw [OrderedMap.mapKeys_map] at hr
    refine (kind_of_read_header hs hr).imp (List.mem_append_right _) fun ho => ?_
    exact ⟨⟨hm, ⟨t, ht⟩, ho.1⟩, ho.2⟩
  · left
    rcases kind_of_build_draft (fun _ hn => lowercase_of_mem_mapKeys hn) hb with hk | hk
    · rw [hk]
      decide
    · rw [hk]
      decide

theorem decode_of_overasks (h : Overasks g body) :
    ∃ f, (decode (g.map .text) body).result = .error f ∧ f.kind ∈ Body.limitKinds := by
  obtain ⟨t, ht⟩ := h.time
  obtain ⟨s, hget, ho⟩ := h.length
  obtain ⟨f, rest, hr, hk⟩ := Body.run_read_of_overlong ho
  refine ⟨f, result_decode_eq_error_iff.2 (Or.inr ⟨h.mode, Or.inr ⟨t, ht, Or.inl ⟨rest, ?_⟩⟩⟩), hk⟩
  rw [OrderedMap.mapKeys_map, header_map_text, hget]
  exact hr

end Binary

end CloudEvents
