import CloudEvents.Proofs.Binary.Extensions
import CloudEvents.Proofs.Binary.Rendered
import CloudEvents.Proofs.Body.Declared
import CloudEvents.Proofs.Time.RoundTrip

/-! Events written and read back. -/
namespace CloudEvents

open Attribute Text

variable {d : Draft} {e : Event} {bytes : List UInt8}

namespace Event

/-- What comes of an event on its way through a response. -/
def arrived (e : Event) : Event :=
  { e with
    data := e.data.filter fun bytes => bytes ≠ []
    extensions := e.extensions.erase "" }

/-- Holds of the events whose payload, if there is one, is no longer than what can be asked for, as
is every payload that is held in memory. -/
def Fits (e : Event) : Prop := ∀ bytes ∈ e.data, bytes.length ≤ Fault.maxIndex

theorem wellFormed_arrived (h : e.WellFormed) : e.arrived.WellFormed := by
  have hkeys : ∀ name ∈ (e.extensions.erase "").keys, name ∈ e.extensions.keys := fun _ hn =>
    (OrderedMap.mem_keys_erase.1 hn).1
  exact ⟨h.id_ne, h.source_ne, h.type_ne, h.version,
    fun name hn => h.lowercase name (hkeys name hn),
    fun name hn => h.notReserved name (hkeys name hn)⟩

/-- Nothing is lost of an event without an empty payload and without a nameless extension. -/
theorem arrived_eq_self (hd : e.data ≠ some []) (hx : "" ∉ e.extensions.keys) : e.arrived = e := by
  have hdata : (e.data.filter fun bytes => bytes ≠ []) = e.data := by
    cases hb : e.data with
    | none => rfl
    | some bytes =>
      have hne : bytes ≠ [] := by
        rintro rfl
        exact hd hb
      simp [hne]
  rw [arrived, hdata, OrderedMap.erase_eq_self hx]

end Event

namespace Binary

/-- A response read as if it were a request. -/
def reread (r : BufferedResponse) : Decoded := decode (.ofList r.headers) (.ofBytes r.body)

/-- The headers of extensions give back the extensions that have a name. -/
theorem filterMap_extension? {l : List (String × Scalar)} (hl : ∀ x ∈ l, x.1 ∉ reserved) :
    (l.map fun x => (headerName headerLead x.1, x.2)).filterMap extension? =
      l.filter fun x => x.1 != "" := by
  induction l with
  | nil => rfl
  | cons x l ih =>
    have hx := hl x (by simp)
    have hne : x.1 ≠ dataContentType := by
      intro he
      rw [he] at hx
      exact hx (by decide)
    rw [List.map_cons, headerName_of_ne _ hne, List.filterMap_cons, extension?_lead hx,
      ih fun y hy => hl y (by simp [hy])]
    by_cases hempty : x.1 = "" <;> simp [hempty]

theorem extensions_sent (h : e.WellFormed) :
    extensions (sent e) = (e.extensions.erase "").map .text := by
  have hlength : (Event.entry contentLength (lengthValue e)).filterMap extension? = [] := by
    have hrole : Role.of contentLength = .unrelated := by decide
    rw [List.filterMap_eq_nil_iff]
    intro x hx
    rw [Event.entry] at hx
    split at hx
    · simp at hx
    · rw [List.mem_singleton] at hx
      simp [hx, extension?, hrole]
  have hstandard : (e.standardAttributes.map fun x =>
      (headerName headerLead x.1, x.2)).filterMap extension? = [] := by
    rw [List.filterMap_eq_nil_iff]
    intro x hx
    obtain ⟨⟨name, value⟩, hy, rfl⟩ := List.mem_map.1 hx
    exact extension?_field (Event.mem_fieldNames_of_mem (Event.mem_standardAttributes.1 hy).1)
  have hreserved : ∀ x ∈ (e.extensions.map Scalar.text).toList, x.1 ∉ reserved := by
    intro x hx
    apply h.notReserved
    rw [← OrderedMap.keys_map Scalar.text]
    exact OrderedMap.mem_keys_of_mem hx
  have herase : (e.extensions.map Scalar.text).toList.filter (fun x => x.1 != "") =
      ((e.extensions.erase "").map Scalar.text).toList := by
    simp only [OrderedMap.map, OrderedMap.erase, List.filter_map]
    rfl
  rw [extensions_eq, toList_sent, List.filterMap_append, hlength, List.append_nil,
    toList_toHeaders, Event.toList_attributes h, List.map_append, List.filterMap_append, hstandard,
    List.nil_append, filterMap_extension? hreserved, herase, OrderedMap.ofList_toList]

/-- The bytes that a written event has as its body. -/
def payload (e : Event) : List UInt8 := e.data.getD []

theorem body_rendered (e : Event) : (rendered e).body = payload e := by
  cases h : e.data <;> simp [rendered, payload, h]

theorem run_read_sent (h : e.Fits) : ∃ rest,
    (Body.read (header (sent e) contentLength)).run (.ofBytes (payload e)) =
      .ok (payload e) rest := by
  rw [header_sent_contentLength]
  cases hd : e.data with
  | none =>
    simp only [lengthValue, payload, hd, Option.map_none, Option.getD_none]
    exact Body.run_read_null_nil
  | some bytes =>
    simp only [lengthValue, payload, hd, Option.map_some, Option.getD_some]
    exact Body.run_read_signed (h bytes hd)

theorem header_sent_contentType (h : e.WellFormed) :
    header (sent e) contentType = e.dataContentType := by
  rw [← headerName_dataContentType headerLead]
  exact header_sent_field h (by simp [Event.fields])

theorem draft_sent (h : e.WellFormed) : draft (sent e) e.time (payload e) = e.arrived.draft := by
  have hdata : (if payload e = [] then none else some (Payload.bytes (payload e))) =
      e.arrived.data.map .bytes := by
    cases hd : e.data with
    | none => simp [payload, Event.arrived, hd]
    | some bytes => by_cases hb : bytes = [] <;> simp [payload, Event.arrived, hd, hb]
  have hid : carried (sent e) Attribute.id = .text e.id :=
    carried_sent_field h (by simp [Event.fields]) (by decide)
  have hsource : carried (sent e) source = .text e.source :=
    carried_sent_field h (by simp [Event.fields]) (by decide)
  have htype : carried (sent e) type = .text e.type :=
    carried_sent_field h (by simp [Event.fields]) (by decide)
  have hversion : carried (sent e) specVersion = .text e.specVersion :=
    carried_sent_field h (by simp [Event.fields]) (by decide)
  have hschema : carried (sent e) dataSchema = e.dataSchema :=
    carried_sent_field h (by simp [Event.fields]) (by decide)
  have hsubject : carried (sent e) subject = e.subject :=
    carried_sent_field h (by simp [Event.fields]) (by decide)
  simp only [draft, header_sent_contentType h, hid, hsource, htype, hversion, hschema, hsubject,
    hdata, extensions_sent h, Scalar.text?]
  rfl

theorem get?_sent_time (h : e.WellFormed) : (sent e).get? (headerLead ++ time) =
    e.time.map fun t => .text (Rfc3339.write t) := by
  rw [← headerName_of_ne headerLead (show time ≠ dataContentType by decide), get?_sent_attribute,
    Event.get?_attributes_time h]

theorem reread_rendered_of_checkMode {f : Fault} (h : e.WellFormed)
    (hm : checkMode e.dataContentType = .error f) : (reread (rendered e)).result = .error f := by
  have hsent : OrderedMap.ofList (rendered e).headers = sent e := rfl
  simp only [reread, decode, hsent, mapKeys_sent h, header_sent_contentType h, hm]

theorem reread_rendered_of_time {t : Timestamp} (h : e.WellFormed)
    (hm : checkMode e.dataContentType = .ok ()) (ht : e.time = some t) (hw : ¬ t.WholeMinutes) :
    (reread (rendered e)).result = .error (.malformedTimestamp (Rfc3339.write t)) := by
  have hsent : OrderedMap.ofList (rendered e).headers = sent e := rfl
  have hread : Draft.optional readTime (e.time.map fun t => .text (Rfc3339.write t)) =
      .error (.malformedTimestamp (Rfc3339.write t)) := by
    rw [ht, Option.map_some, Draft.optional, readTime_text, Rfc3339.read_write_of_not hw]
    rfl
  simp only [reread, decode, hsent, mapKeys_sent h, header_sent_contentType h, hm,
    get?_sent_time h, hread]

theorem reread_rendered (h : e.WellFormed) (hm : checkMode e.dataContentType = .ok ())
    (ht : ∀ t ∈ e.time, t.WholeMinutes) (hf : e.Fits) :
    (reread (rendered e)).result = .ok e.arrived := by
  have hsent : OrderedMap.ofList (rendered e).headers = sent e := rfl
  have hread : Draft.optional readTime (e.time.map fun t => .text (Rfc3339.write t)) =
      .ok e.time := by
    cases htime : e.time with
    | none => rfl
    | some t =>
      rw [Option.map_some, Draft.optional, readTime_text, Rfc3339.read_write (ht t htime)]
      rfl
  obtain ⟨rest, hbody⟩ := run_read_sent hf
  simp only [reread, decode, hsent, mapKeys_sent h, header_sent_contentType h, hm,
    get?_sent_time h, hread, decodeBody, body_rendered, hbody, draft_sent h]
  exact Event.build_draft (Event.wellFormed_arrived h)

/-- Writing always succeeds. What is read back depends on the content type and then on the time. -/
theorem reread_encode (h : d.build = .ok e) :
    ∃ r, (encode e : EStateM Fault BufferedResponse Unit).run {} = .ok () r ∧
      (∀ f, isStructured e.dataContentType = .error f → (reread r).result = .error f) ∧
      (isStructured e.dataContentType = .ok true →
        (reread r).result = .error (.unsupportedMode e.dataContentType.render)) ∧
      (isStructured e.dataContentType = .ok false → ∀ t, e.time = some t → ¬ t.WholeMinutes →
        (reread r).result = .error (.malformedTimestamp (Rfc3339.write t))) ∧
      (isStructured e.dataContentType = .ok false → (∀ t, e.time = some t → t.WholeMinutes) →
        e.Fits → (reread r).result = .ok e.arrived) := by
  have hw := Event.wellFormed_of_build h
  refine ⟨rendered e, run_encode e, ?_, ?_, ?_, ?_⟩
  · intro f hs
    exact reread_rendered_of_checkMode hw (checkMode_of_error hs)
  · intro hs
    exact reread_rendered_of_checkMode hw (checkMode_of_ok hs)
  · intro hs t ht hn
    exact reread_rendered_of_time hw (checkMode_of_ok hs) ht hn
  · intro hs ht hf
    exact reread_rendered hw (checkMode_of_ok hs) ht hf

/-- An order from a place whose clock is five and a half hours ahead. -/
def orderTime : Timestamp where
  clock := ⟨2024, 5, 1, 12, 30, 15, 250000⟩
  offset := some 19800000000
  valid := by decide
  offset_lt := by decide

def orderDraft : Draft where
  id := some "abc-1"
  source := some "/orders"
  type := some "com.example.order.created"
  dataContentType := .text "text/plain"
  subject := .text "7"
  time := some (.stamp orderTime)
  data := some (.bytes [104, 105])
  extensions := .ofList [("MyExt", .int 42), ("", .text "lost"), ("Straße", .text "x")]

def orderEvent : Event where
  id := "abc-1"
  source := "/orders"
  type := "com.example.order.created"
  specVersion := "1.0"
  dataContentType := .text "text/plain"
  dataSchema := .null
  subject := .text "7"
  time := some orderTime
  data := some [104, 105]
  extensions := .ofList [("myext", "42"), ("", "lost"), ("straße", "x")]

/-- The extension without a name is lost, and nothing else is. -/
theorem reread_encode_order : orderDraft.build = .ok orderEvent ∧
    ∃ r, (encode orderEvent : EStateM Fault BufferedResponse Unit).run {} = .ok () r ∧
      (reread r).result = .ok { orderEvent with
        extensions := .ofList [("myext", "42"), ("straße", "x")] } := by
  have hbuild : orderDraft.build = .ok orderEvent := by decide +kernel
  obtain ⟨r, hr, -, -, -, hback⟩ := reread_encode hbuild
  have hwhole : ∀ t, orderEvent.time = some t → t.WholeMinutes := by
    rintro t ⟨⟩
    decide
  have hfits : orderEvent.Fits := by
    rintro bytes ⟨⟩
    decide
  have harrived : orderEvent.arrived = { orderEvent with
      extensions := .ofList [("myext", "42"), ("straße", "x")] } := by decide +kernel
  exact ⟨hbuild, r, hr, harrived ▸ hback (by decide +kernel) hwhole hfits⟩

end Binary

end CloudEvents
