import CloudEvents.Proofs.Binary.RoundTrip
import CloudEvents.Proofs.Binary.Stages

/-! Events that are read from a request and sent on. -/
namespace CloudEvents.Binary

open Attribute Text

variable {g h : OrderedMap String} {body : BodyStream} {e : Event} {name : String}

/-- Holds of the headers that say something about the event: the content type, and those with a name
behind the lead, except for the two names that are carried otherwise. -/
def Forwarded (header : String) : Prop :=
  header = contentType ∨
    ∃ name, header = headerLead ++ name ∧ name ≠ "" ∧ name ≠ data ∧ name ≠ dataContentType

/-- What is known of an event that was read from headers with lowercase names. -/
structure ReadFrom (g : OrderedMap String) (e : Event) : Prop where
  wellFormed : e.WellFormed
  mode : checkMode e.dataContentType = .ok ()
  fields : ∀ name value, (name, value) ∈ e.fields → name ≠ time →
    value = header (g.map .text) (headerName headerLead name)
  time : Draft.optional Rfc3339.read (g.get? timeHeader) = .ok e.time
  data : e.data ≠ some []
  extensions : e.extensions.map .text = extensions (g.map .text)

theorem eq_text_of_requireText {v : Scalar} {s : String}
    (h : Draft.requireText name v.text? = .ok s) : v = .text s := by
  have hv := (Draft.requireText_eq_ok_iff.1 h).1
  cases v <;> simp_all [Scalar.text?]

theorem map_text_render {m : OrderedMap Scalar}
    (hm : ∀ n v, (n, v) ∈ m.toList → .text v.render = v) : (m.map Scalar.render).map .text = m := by
  rw [← OrderedMap.toList_inj]
  simp only [OrderedMap.map, List.map_map]
  conv_rhs => rw [← List.map_id m.toList]
  refine List.map_congr_left fun x hx => ?_
  exact Prod.ext rfl (hm x.1 x.2 hx)

/-- The names of extensions need no lowercasing, and their values are texts already. -/
theorem map_text_of_checkExtensions {x : OrderedMap String}
    (hg : ∀ name ∈ g.keys, lowercase name = name)
    (h : Draft.checkExtensions (extensions (g.map .text)) = .ok x) :
    x.map .text = extensions (g.map .text) := by
  have htext : ∀ n v, (n, v) ∈ (extensions (g.map .text)).toList → .text v.render = v := by
    intro n v hv
    obtain ⟨z, -, hz⟩ := List.mem_map.1 (mem_extensions.1 hv).1
    obtain ⟨-, rfl⟩ := Prod.mk.inj hz
    rfl
  rw [checkExtensions_extensions (by rwa [OrderedMap.keys_map])] at h
  cases h
  exact map_text_render htext

theorem readFrom_of_decode (hd : (decode (h.map .text) body).result = .ok e) :
    ReadFrom (h.mapKeys lowercase) e := by
  obtain ⟨hmode, t, bytes, rest, htime, -, hbuild⟩ := result_decode_eq_ok_iff.1 hd
  rw [OrderedMap.mapKeys_map] at hmode htime hbuild
  have hlower : ∀ name ∈ (h.mapKeys lowercase).keys, lowercase name = name := fun _ hn =>
    lowercase_of_mem_mapKeys hn
  generalize h.mapKeys lowercase = g at *
  have hy := Draft.build_eq_ok_iff.1 hbuild
  have ht : e.time = t := Except.ok.inj (hy.time.symm.trans (optional_stamp t))
  have hdata : e.data = if bytes = [] then none else some bytes :=
    Except.ok.inj (hy.data.symm.trans (optional_bytes bytes))
  rw [OrderedMap.get?_map, optional_readTime, ← ht] at htime
  refine ⟨Event.wellFormed_of_build hbuild, ?_, ?_, htime, ?_,
    map_text_of_checkExtensions hlower hy.extensions⟩
  · rw [← hy.dataContentType]
    exact hmode
  · intro name value hf hname
    simp only [Event.fields, List.mem_cons, Prod.mk.injEq, List.not_mem_nil, or_false] at hf
    rcases hf with ⟨rfl, rfl⟩ | ⟨rfl, rfl⟩ | ⟨rfl, rfl⟩ | ⟨rfl, rfl⟩ | ⟨rfl, rfl⟩ | ⟨rfl, rfl⟩ |
      ⟨rfl, rfl⟩ | ⟨rfl, rfl⟩
    · exact (eq_text_of_requireText hy.specVersion).symm
    · exact (eq_text_of_requireText hy.id).symm
    · exact (eq_text_of_requireText hy.source).symm
    · exact (eq_text_of_requireText hy.type).symm
    · exact hy.dataContentType.symm
    · exact hy.dataSchema.symm
    · exact hy.subject.symm
    · exact absurd rfl hname
  · rw [hdata]
    split
    · simp
    · simpa

namespace ReadFrom

theorem names_extensions (hr : ReadFrom g e) (hn : name ∈ e.extensions.keys) :
    name ∉ reserved ∧ name ≠ "" := by
  rw [← OrderedMap.keys_map Scalar.text, hr.extensions] at hn
  obtain ⟨⟨n, v⟩, hv, rfl⟩ := List.mem_map.1 hn
  exact (mem_extensions.1 hv).2

/-- A header of the format is sent on with the value it had. -/
theorem get?_field (hr : ReadFrom g e) (hf : name ∈ Event.fieldNames)
    (hne : name ≠ Attribute.time) :
    (toHeaders e headerLead).get? (headerName headerLead name) =
      (g.get? (headerName headerLead name)).map .text := by
  rw [← Event.keys_fields e] at hf
  obtain ⟨⟨n, value⟩, hv, rfl⟩ := List.mem_map.1 hf
  have hvalue := hr.fields n value hv hne
  rw [get?_toHeaders, Event.get?_attributes_field hr.wellFormed hv, hvalue, header,
    OrderedMap.get?_map]
  cases g.get? (headerName headerLead n) <;> simp

theorem get?_extension (hr : ReadFrom g e) (hn : name ∉ reserved) (hne : name ≠ "") :
    (toHeaders e headerLead).get? (headerLead ++ name) =
      (g.get? (headerLead ++ name)).map .text := by
  have hfield : name ∉ Event.fieldNames := fun h => hn (Event.reserved_of_mem_fieldNames h)
  have htype : name ≠ dataContentType := by
    rintro rfl
    exact hn (by decide)
  rw [← headerName_of_ne headerLead htype, get?_toHeaders,
    Event.get?_attributes_extension hr.wellFormed hfield, ← OrderedMap.get?_map, hr.extensions,
    get?_extensions hn hne, OrderedMap.get?_map, headerName_of_ne headerLead htype]

theorem get?_time (hr : ReadFrom g e) : (toHeaders e headerLead).get? timeHeader =
    e.time.map fun t => .text (Rfc3339.write t) := by
  have hheader : timeHeader = headerName headerLead Attribute.time := rfl
  rw [hheader, get?_toHeaders, Event.get?_attributes_time hr.wellFormed]

theorem get?_forwarded (hr : ReadFrom g e) (hf : Forwarded name) (ht : name ≠ timeHeader) :
    (toHeaders e headerLead).get? name = (g.get? name).map .text := by
  rcases hf with rfl | ⟨n, rfl, hne, hdata, htype⟩
  · have hfield : dataContentType ∈ Event.fieldNames := by decide
    have htime : dataContentType ≠ Attribute.time := by decide
    exact hr.get?_field hfield htime
  · by_cases hfield : n ∈ Event.fieldNames
    · have htime : n ≠ Attribute.time := by
        rintro rfl
        exact ht rfl
      rw [← headerName_of_ne headerLead htype]
      exact hr.get?_field hfield htime
    · have hreserved : n ∉ reserved := by
        intro hn
        rcases Event.mem_fieldNames_or_eq_data hn with hn | hn
        · exact hfield hn
        · exact hdata hn
      exact hr.get?_extension hreserved hne

theorem forwarded_of_mem (hr : ReadFrom g e) (hn : name ∈ (toHeaders e headerLead).keys) :
    Forwarded name := by
  obtain ⟨a, ha, rfl⟩ := mem_keys_toHeaders.1 hn
  by_cases htype : a = dataContentType
  · exact Or.inl (by rw [htype, headerName_dataContentType])
  · refine Or.inr ⟨a, headerName_of_ne headerLead htype, ?_, ?_, htype⟩
    all_goals
      rintro rfl
      rcases mem_keys_attributes hr.wellFormed ha with ha | ha
    · revert ha
      decide
    · exact (hr.names_extensions ha).2 rfl
    · revert ha
      decide
    · exact (hr.names_extensions ha).1 (by decide)

/-- Nothing is lost of an event that was read. -/
theorem arrived_eq (hr : ReadFrom g e) : e.arrived = e := by
  have hempty : "" ∉ e.extensions.keys := fun hn => (hr.names_extensions hn).2 rfl
  exact Event.arrived_eq_self hr.data hempty

theorem wholeMinutes (hr : ReadFrom g e) : ∀ t ∈ e.time, t.WholeMinutes := by
  intro t ht
  have htime := hr.time
  rw [Option.mem_def.1 ht] at htime
  cases hv : g.get? timeHeader with
  | none => simp [hv, Draft.optional] at htime
  | some value =>
    cases hread : Rfc3339.read value with
    | error f => simp [hv, Draft.optional, hread, Except.map] at htime
    | ok s =>
      simp only [hv, Draft.optional, hread, Except.map, Except.ok.injEq, Option.some.injEq] at htime
      exact htime ▸ Rfc3339.wholeMinutes_of_read hread

end ReadFrom

/-- The value of the last of the headers that have a name in some letter case. -/
def lastValue (headers : OrderedMap String) (name : String) : Option String :=
  (headers.toList.reverse.find? fun x => lowercase x.1 == name).map Prod.snd

theorem get?_mapKeys_lowercase (headers : OrderedMap String) (name : String) :
    (headers.mapKeys lowercase).get? name = lastValue headers name := by
  rw [OrderedMap.mapKeys, OrderedMap.get?_ofList, ← List.map_reverse, List.find?_map, lastValue,
    Option.map_map]
  rfl

/-- An event that was read is sent on under the headers that it came with, the time being written
anew and the extensions staying in order, and is read again as the event that it is. -/
theorem toHeaders_decode (hd : (decode (h.map .text) body).result = .ok e) :
    (∀ name, Forwarded name → name ≠ timeHeader →
      (toHeaders e headerLead).get? name = (lastValue h name).map .text) ∧
    (∃ t, Draft.optional Rfc3339.read (lastValue h timeHeader) = .ok t ∧
      (toHeaders e headerLead).get? timeHeader = t.map fun t => .text (Rfc3339.write t)) ∧
    (∀ name, ¬ Forwarded name → (toHeaders e headerLead).get? name = none) ∧
    (e.extensions.keys.map (headerLead ++ ·)).Sublist (h.mapKeys lowercase).keys ∧
    ∃ r, (encode e : EStateM Fault BufferedResponse Unit).run {} = .ok () r ∧
      (e.Fits → (reread r).result = .ok e) := by
  have hr := readFrom_of_decode hd
  refine ⟨?_, ⟨e.time, ?_, hr.get?_time⟩, ?_, ?_, rendered e, run_encode e, ?_⟩
  · intro name hf ht
    rw [hr.get?_forwarded hf ht, get?_mapKeys_lowercase]
  · rw [← get?_mapKeys_lowercase]
    exact hr.time
  · intro name hf
    rw [OrderedMap.get?_eq_none_iff]
    exact fun hn => hf (hr.forwarded_of_mem hn)
  · have hkeys := congrArg OrderedMap.keys hr.extensions
    rw [OrderedMap.keys_map] at hkeys
    rw [hkeys, ← OrderedMap.keys_map Scalar.text (h.mapKeys lowercase)]
    exact keys_extensions_sublist _
  · intro hf
    rw [reread_rendered hr.wellFormed hr.mode hr.wholeMinutes hf, hr.arrived_eq]

/-- A request with an order, some of whose headers come twice or are of no event. -/
def orderRequest : OrderedMap String := .ofList [
  ("Host", "orders.example"), ("Content-Type", "text/plain"), ("Ce-Id", "abc-0"),
  ("ce-specversion", "1.0"), ("ce-source", "/orders"), ("CE-Type", "com.example.order.created"),
  ("ce-subject", "7"), ("ce-time", "2024-05-01t12:30:15.25+05:30"), ("ce-data", "none"),
  ("ce-MyExt", "42"), ("ce-", "lost"), ("CE-Straße", "x"), ("ce-id", "abc-1")]

theorem toHeaders_decode_order :
    (decode (orderRequest.map .text) (.ofBytes [104, 105])).result = .ok orderEvent.arrived ∧
      (toHeaders orderEvent.arrived headerLead).get? "ce-id" = some (.text "abc-1") ∧
      (toHeaders orderEvent.arrived headerLead).get? timeHeader =
        some (.text "2024-05-01T12:30:15.250000+05:30") ∧
      ∃ r, (encode orderEvent.arrived : EStateM Fault BufferedResponse Unit).run {} = .ok () r ∧
        (reread r).result = .ok orderEvent.arrived := by
  have hdecode : (decode (orderRequest.map .text) (.ofBytes [104, 105])).result =
      .ok orderEvent.arrived := by decide +kernel
  obtain ⟨hforward, ⟨t, hread, htime⟩, -, -, r, hr, hback⟩ := toHeaders_decode hdecode
  have hid : Forwarded "ce-id" := Or.inr ⟨Attribute.id, by decide⟩
  have hlast : lastValue orderRequest "ce-id" = some "abc-1" := by decide +kernel
  have horder : Draft.optional Rfc3339.read (lastValue orderRequest timeHeader) =
      .ok (some orderTime) := by decide +kernel
  have hwrite : Rfc3339.write orderTime = "2024-05-01T12:30:15.250000+05:30" := by decide +kernel
  have hfits : orderEvent.arrived.Fits := by
    rintro bytes ⟨⟩
    decide
  refine ⟨hdecode, ?_, ?_, r, hr, hback hfits⟩
  · rw [hforward "ce-id" hid (by decide), hlast, Option.map_some]
  · rw [htime, Except.ok.inj (hread.symm.trans horder), Option.map_some, hwrite]

end CloudEvents.Binary
