import CloudEvents.Event.Draft
import CloudEvents.Proofs.OrderedMap
import CloudEvents.Proofs.Text.Casing

/-! The events that can be built are the well-formed ones. -/
namespace CloudEvents

variable {α β ε : Type} {d : Draft} {e : Event}

theorem Except.bind_eq_ok_iff {x : Except ε α} {f : α → Except ε β} {b : β} :
    x >>= f = .ok b ↔ ∃ a, x = .ok a ∧ f a = .ok b := by
  cases x with
  | error _ => simp [bind, Except.bind]
  | ok a => simp [bind, Except.bind]

theorem Except.bind_eq_error_iff {x : Except ε α} {f : α → Except ε β} {err : ε} :
    x >>= f = .error err ↔ x = .error err ∨ ∃ a, x = .ok a ∧ f a = .error err := by
  cases x with
  | error _ => simp [bind, Except.bind]
  | ok a => simp [bind, Except.bind]

theorem Except.map_bind {γ : Type} {x : Except ε α} {f : α → Except ε β} {g : β → γ} :
    (x >>= f).map g = x >>= fun a => (f a).map g := by
  cases x <;> rfl

namespace Draft

/-- What `build` makes of a draft, field by field. -/
structure Yields (d : Draft) (e : Event) : Prop where
  id : requireText Attribute.id d.id = .ok e.id
  source : requireText Attribute.source d.source = .ok e.source
  type : requireText Attribute.type d.type = .ok e.type
  specVersion : requireText Attribute.specVersion d.specVersion = .ok e.specVersion
  supported : e.specVersion ∈ Attribute.supportedVersions
  dataContentType : d.dataContentType = e.dataContentType
  dataSchema : d.dataSchema = e.dataSchema
  subject : d.subject = e.subject
  time : optional TimeValue.resolve d.time = .ok e.time
  data : optional Payload.resolve d.data = .ok e.data
  extensions : checkExtensions d.extensions = .ok e.extensions

theorem requireText_eq_ok_iff {name v : String} {given : Option String} :
    requireText name given = .ok v ↔ given = some v ∧ v ≠ "" := by
  cases given with
  | none => simp [requireText]
  | some w =>
    by_cases hw : w = ""
    · simp only [requireText, hw, if_true, reduceCtorEq, Option.some.injEq, false_iff, not_and,
        not_not]
      exact Eq.symm
    · simp only [requireText, hw, if_false, Except.ok.injEq, Option.some.injEq]
      exact ⟨fun h => ⟨h, h ▸ hw⟩, And.left⟩

theorem supportedVersion_eq_ok_iff {v w : String} :
    supportedVersion v = .ok w ↔ v = w ∧ w ∈ Attribute.supportedVersions := by
  by_cases hv : v ∈ Attribute.supportedVersions
  · simp only [supportedVersion, hv, if_true, Except.ok.injEq]
    exact ⟨fun h => ⟨h, h ▸ hv⟩, And.left⟩
  · simp only [supportedVersion, hv, if_false, reduceCtorEq, false_iff, not_and]
    rintro rfl
    exact hv

theorem build_eq_ok_iff : d.build = .ok e ↔ d.Yields e := by
  simp only [build, Except.bind_eq_ok_iff]
  constructor
  · rintro ⟨id, hid, source, hsource, version, hversion, type, htype, _, hsupported, time, htime,
      data, hdata, extensions, hextensions, he⟩
    obtain ⟨rfl, hsupported⟩ := supportedVersion_eq_ok_iff.1 hsupported
    cases he
    exact ⟨hid, hsource, htype, hversion, hsupported, rfl, rfl, rfl, htime, hdata, hextensions⟩
  · intro h
    exact ⟨_, h.id, _, h.source, _, h.specVersion, _, h.type, _,
      supportedVersion_eq_ok_iff.2 ⟨rfl, h.supported⟩, _, h.time, _, h.data, _, h.extensions, by
        rw [h.dataContentType, h.dataSchema, h.subject]; rfl⟩

theorem checkExtensions_eq_ok_iff {m : OrderedMap Scalar} {x : OrderedMap String} :
    checkExtensions m = .ok x ↔
      (∀ name ∈ m.keys, Text.lowercase name ∉ Attribute.reserved) ∧
        x = (m.map Scalar.render).mapKeys Text.lowercase := by
  have hnone : (m.keys.find? fun name => Attribute.reserved.contains (Text.lowercase name)) = none ↔
      ∀ name ∈ m.keys, Text.lowercase name ∉ Attribute.reserved := by
    simp [List.find?_eq_none]
  rw [← hnone, checkExtensions]
  cases m.keys.find? fun name => Attribute.reserved.contains (Text.lowercase name) with
  | none => simp [eq_comm]
  | some name => simp

theorem exists_of_optional {f : α → Except Fault β} {o : Option α} {b : β}
    (h : optional f o = .ok (some b)) : ∃ a, o = some a ∧ f a = .ok b := by
  cases o with
  | none => cases h
  | some a =>
    cases hf : f a with
    | error g =>
      rw [optional, hf] at h
      cases h
    | ok c =>
      rw [optional, hf] at h
      cases h
      exact ⟨a, rfl, hf⟩

/-- Extensions under free names are accepted. -/
theorem checkExtensions_of_free {m : OrderedMap Scalar}
    (hl : ∀ name ∈ m.keys, Text.lowercase name = name)
    (hr : ∀ name ∈ m.keys, name ∉ Attribute.reserved) :
    checkExtensions m = .ok (m.map Scalar.render) := by
  refine checkExtensions_eq_ok_iff.2 ⟨?_, ?_⟩
  · intro name hm
    rw [hl name hm]
    exact hr name hm
  · rw [OrderedMap.mapKeys_eq_self (by rwa [OrderedMap.keys_map])]

/-- Extensions that are texts under free names stay as they are. -/
theorem checkExtensions_text {m : OrderedMap String}
    (hl : ∀ name ∈ m.keys, Text.lowercase name = name)
    (hr : ∀ name ∈ m.keys, name ∉ Attribute.reserved) :
    checkExtensions (m.map .text) = .ok m := by
  have hrender : (m.map Scalar.text).map Scalar.render = m := by
    rw [← OrderedMap.toList_inj]
    exact (List.map_map ..).trans (List.map_id _)
  rw [checkExtensions_of_free (by rwa [OrderedMap.keys_map]) (by rwa [OrderedMap.keys_map]),
    hrender]

/-- Under free names the extensions have no part in whether an event is built. -/
theorem build_eq_map (hl : ∀ name ∈ d.extensions.keys, Text.lowercase name = name)
    (hr : ∀ name ∈ d.extensions.keys, name ∉ Attribute.reserved) :
    d.build = (build { d with extensions := .empty }).map fun e =>
      { e with extensions := d.extensions.map Scalar.render } := by
  have hempty : checkExtensions .empty = .ok .empty := rfl
  simp only [build, Except.map_bind, checkExtensions_of_free hl hr, hempty]
  rfl

theorem kind_of_requireText {name : String} {given : Option String} {f : Fault}
    (h : requireText name given = .error f) : f.kind = .missingAttribute := by
  unfold requireText at h
  split at h
  · split at h
    · cases h
      rfl
    · cases h
  · cases h
    rfl

theorem kind_of_supportedVersion {v : String} {f : Fault} (h : supportedVersion v = .error f) :
    f.kind = .unsupportedVersion := by
  unfold supportedVersion at h
  split at h
  · cases h
  · cases h
    rfl

/-- Where the time, the payload and the extensions are accepted, an event is not built for want of
an attribute or for its version. -/
theorem kind_of_build {f : Fault} (ht : ∃ time, optional TimeValue.resolve d.time = .ok time)
    (hd : ∃ data, optional Payload.resolve d.data = .ok data)
    (hx : ∃ extensions, checkExtensions d.extensions = .ok extensions) (h : d.build = .error f) :
    f.kind = .missingAttribute ∨ f.kind = .unsupportedVersion := by
  obtain ⟨time, ht⟩ := ht
  obtain ⟨data, hd⟩ := hd
  obtain ⟨extensions, hx⟩ := hx
  simp only [build, Except.bind_eq_error_iff] at h
  rcases h with h | ⟨id, -, h | ⟨source, -, h | ⟨version, -, h | ⟨type, -, h |
    ⟨specVersion, -, h⟩⟩⟩⟩⟩
  · exact Or.inl (kind_of_requireText h)
  · exact Or.inl (kind_of_requireText h)
  · exact Or.inl (kind_of_requireText h)
  · exact Or.inl (kind_of_requireText h)
  · exact Or.inr (kind_of_supportedVersion h)
  · simp [ht, hd, hx, pure, Except.pure] at h

end Draft

namespace Event

theorem wellFormed_of_build (h : d.build = .ok e) : e.WellFormed := by
  have hy := Draft.build_eq_ok_iff.1 h
  obtain ⟨hnames, hext⟩ := Draft.checkExtensions_eq_ok_iff.1 hy.extensions
  have hkeys : ∀ name ∈ e.extensions.keys, ∃ given ∈ d.extensions.keys,
      Text.lowercase given = name := by
    intro name hm
    rw [hext] at hm
    simpa using OrderedMap.mem_keys_mapKeys.1 hm
  refine ⟨(Draft.requireText_eq_ok_iff.1 hy.id).2, (Draft.requireText_eq_ok_iff.1 hy.source).2,
    (Draft.requireText_eq_ok_iff.1 hy.type).2, hy.supported, ?_, ?_⟩
  · intro name hm
    obtain ⟨given, -, rfl⟩ := hkeys name hm
    exact Text.lowercase_lowercase given
  · intro name hm
    obtain ⟨given, hg, rfl⟩ := hkeys name hm
    exact hnames given hg

theorem yields_draft (h : e.WellFormed) : e.draft.Yields e where
  id := Draft.requireText_eq_ok_iff.2 ⟨rfl, h.id_ne⟩
  source := Draft.requireText_eq_ok_iff.2 ⟨rfl, h.source_ne⟩
  type := Draft.requireText_eq_ok_iff.2 ⟨rfl, h.type_ne⟩
  specVersion := Draft.requireText_eq_ok_iff.2 ⟨rfl, by
    rintro he
    have hv := h.version
    rw [he] at hv
    revert hv
    decide⟩
  supported := h.version
  dataContentType := rfl
  dataSchema := rfl
  subject := rfl
  time := by
    cases ht : e.time <;> simp [draft, ht, Draft.optional, TimeValue.resolve, Except.map]
  data := by
    cases hd : e.data <;> simp [draft, hd, Draft.optional, Payload.resolve, Except.map]
  extensions := Draft.checkExtensions_text h.lowercase h.notReserved

/-- A well-formed event is built again from its own fields. -/
theorem build_draft (h : e.WellFormed) : e.draft.build = .ok e :=
  Draft.build_eq_ok_iff.2 (yields_draft h)

end Event

end CloudEvents
