import CloudEvents.Proofs.Binary.Extensions

/-! Reading an event stage by stage: the mode, the time, the body and the draft. -/
namespace CloudEvents.Binary

open Attribute Text

variable {m : OrderedMap Scalar} {request : OrderedMap Scalar} {body : BodyStream} {e : Event}
  {f : Fault} {moment : Option Timestamp} {bytes : List UInt8} {name : String}

def timeHeader : String := headerLead ++ time

/-- A mode that is refused is refused before anything is read. -/
theorem decode_of_mode_error
    (hm : checkMode (header (request.mapKeys lowercase) contentType) = .error f) :
    (decode request body).result = .error f ∧ (decode request body).body = body := by
  simp only [decode, hm, and_self]

theorem decode_of_time_error
    (hm : checkMode (header (request.mapKeys lowercase) contentType) = .ok ())
    (ht : Draft.optional readTime ((request.mapKeys lowercase).get? timeHeader) = .error f) :
    (decode request body).result = .error f ∧ (decode request body).body = body := by
  rw [timeHeader] at ht
  simp only [decode, hm, ht, and_self]

theorem decode_eq_decodeBody
    (hm : checkMode (header (request.mapKeys lowercase) contentType) = .ok ())
    (ht : Draft.optional readTime ((request.mapKeys lowercase).get? timeHeader) = .ok moment) :
    decode request body = decodeBody (request.mapKeys lowercase) moment body := by
  rw [timeHeader] at ht
  simp only [decode, hm, ht]

theorem result_decode (request : OrderedMap Scalar) (body : BodyStream) :
    (decode request body).result =
      (checkMode (header (request.mapKeys lowercase) contentType) >>= fun _ =>
        Draft.optional readTime ((request.mapKeys lowercase).get? timeHeader) >>= fun time =>
          (decodeBody (request.mapKeys lowercase) time body).result) := by
  cases hm : checkMode (header (request.mapKeys lowercase) contentType) with
  | error f => exact (decode_of_mode_error hm).1
  | ok _ =>
    cases ht : Draft.optional readTime ((request.mapKeys lowercase).get? timeHeader) with
    | error f => exact (decode_of_time_error hm ht).1
    | ok moment => exact congrArg Decoded.result (decode_eq_decodeBody hm ht)

/-- A request gives an event when its mode, its time and its body are accepted and the draft that
they make is. -/
theorem result_decode_eq_ok_iff :
    (decode request body).result = .ok e ↔
      checkMode (header (request.mapKeys lowercase) contentType) = .ok () ∧
      ∃ time bytes rest,
        Draft.optional readTime ((request.mapKeys lowercase).get? timeHeader) = .ok time ∧
        (Body.read (header (request.mapKeys lowercase) contentLength)).run body = .ok bytes rest ∧
        (draft (request.mapKeys lowercase) time bytes).build = .ok e := by
  simp only [result_decode, Except.bind_eq_ok_iff, decodeBody]
  cases (Body.read (header (request.mapKeys lowercase) contentLength)).run body with
  | error f rest => simp [Unique.exists_iff]
  | ok bytes rest => simp [Unique.exists_iff]

/-- The first stage that fails gives the fault. -/
theorem result_decode_eq_error_iff :
    (decode request body).result = .error f ↔
      checkMode (header (request.mapKeys lowercase) contentType) = .error f ∨
      checkMode (header (request.mapKeys lowercase) contentType) = .ok () ∧
        (Draft.optional readTime ((request.mapKeys lowercase).get? timeHeader) = .error f ∨
        ∃ time, Draft.optional readTime ((request.mapKeys lowercase).get? timeHeader) = .ok time ∧
          ((∃ rest, (Body.read (header (request.mapKeys lowercase) contentLength)).run body =
            .error f rest) ∨
          ∃ bytes rest, (Body.read (header (request.mapKeys lowercase) contentLength)).run body =
            .ok bytes rest ∧ (draft (request.mapKeys lowercase) time bytes).build = .error f)) := by
  simp only [result_decode, Except.bind_eq_error_iff, decodeBody]
  cases (Body.read (header (request.mapKeys lowercase) contentLength)).run body with
  | error g rest => simp [Unique.exists_iff]
  | ok bytes rest => simp [Unique.exists_iff]

theorem optional_readTime (o : Option String) :
    Draft.optional readTime (o.map .text) = Draft.optional Rfc3339.read o := by
  cases o <;> simp [Draft.optional]

theorem optional_stamp (o : Option Timestamp) :
    Draft.optional TimeValue.resolve (o.map .stamp) = .ok o := by
  cases o <;> simp [Draft.optional, TimeValue.resolve, Except.map]

theorem optional_bytes (bytes : List UInt8) :
    Draft.optional Payload.resolve (if bytes = [] then none else some (.bytes bytes)) =
      .ok (if bytes = [] then none else some bytes) := by
  by_cases hb : bytes = [] <;> simp [hb, Draft.optional, Payload.resolve, Except.map]

theorem lowercase_of_mem_mapKeys {α : Type} {g : OrderedMap α}
    (hn : name ∈ (g.mapKeys lowercase).keys) : lowercase name = name := by
  obtain ⟨given, -, rfl⟩ := OrderedMap.mem_keys_mapKeys.1 hn
  exact lowercase_lowercase given

/-- The names of extensions that were read are free. -/
theorem free_of_mem_extensions (hl : ∀ name ∈ m.keys, lowercase name = name)
    (hn : name ∈ (extensions m).keys) : lowercase name = name ∧ name ∉ reserved := by
  obtain ⟨⟨name, value⟩, hv, rfl⟩ := List.mem_map.1 hn
  obtain ⟨hheader, hfree, -⟩ := mem_extensions.1 hv
  exact ⟨lowercase_suffix (hl _ (OrderedMap.mem_keys_of_mem hheader)), hfree⟩

theorem checkExtensions_extensions (hl : ∀ name ∈ m.keys, lowercase name = name) :
    Draft.checkExtensions (extensions m) = .ok ((extensions m).map Scalar.render) :=
  Draft.checkExtensions_of_free (fun _ hn => (free_of_mem_extensions hl hn).1)
    fun _ hn => (free_of_mem_extensions hl hn).2

/-- Whether headers make an event is up to all of them but the extensions. -/
theorem build_draft_eq_map (hl : ∀ name ∈ m.keys, lowercase name = name) :
    (draft m moment bytes).build =
      (Draft.build { draft m moment bytes with extensions := .empty }).map fun e =>
        { e with extensions := (extensions m).map Scalar.render } :=
  Draft.build_eq_map (fun _ hn => (free_of_mem_extensions hl hn).1)
    fun _ hn => (free_of_mem_extensions hl hn).2

end CloudEvents.Binary
