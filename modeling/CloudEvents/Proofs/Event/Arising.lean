import CloudEvents.Proofs.Binary.Forwarding
import CloudEvents.Proofs.Event.Attributes
import CloudEvents.Trace.Context

/-! Where events come from, and what holds of every one of them. -/
namespace CloudEvents.Event

variable {d : Draft} {c : Changes} {stamp : Stamp} {e f : Event} {context : SpanContext}
  {request : OrderedMap Scalar} {body : BodyStream} {m : OrderedMap String} {name : String}
  {given : TimeValue → Prop} {t : Timestamp} {s : String}

/-- The events that there are if each time that is given satisfies `given`: built from fields,
created, changed, read from a request, or given the context of a span, in any order and any number
of times. -/
inductive ArisesFrom (given : TimeValue → Prop) : Event → Prop
  | built {d : Draft} {e : Event} (ht : ∀ t, d.time = some t → given t) (h : d.build = .ok e) :
      ArisesFrom given e
  | created {stamp : Stamp} {c : Changes} {e : Event}
      (ht : ∀ t, c.time = some (some t) → given t) (h : create stamp c = .ok e) :
      ArisesFrom given e
  | replaced {e f : Event} {c : Changes} (he : ArisesFrom given e)
      (ht : ∀ t, c.time = some (some t) → given t) (h : e.replace c = .ok f) : ArisesFrom given f
  | decoded {request : OrderedMap Scalar} {body : BodyStream} {e : Event}
      (h : (Binary.decode request body).result = .ok e) : ArisesFrom given e
  | traced {e : Event} (he : ArisesFrom given e) (context : SpanContext) :
      ArisesFrom given (e.withTrace context)

/-- The events that there are, whatever times are given. -/
def Arises (e : Event) : Prop := e.ArisesFrom fun _ => True

theorem Arises.built (h : d.build = .ok e) : e.Arises := ArisesFrom.built (fun _ _ => trivial) h

theorem Arises.traced (he : e.Arises) (context : SpanContext) : (e.withTrace context).Arises :=
  ArisesFrom.traced he context

theorem wellFormed_of_create (h : create stamp c = .ok e) : e.WellFormed :=
  wellFormed_of_build h

theorem wellFormed_of_replace (h : e.replace c = .ok f) : f.WellFormed :=
  wellFormed_of_build h

theorem wellFormed_of_decode (h : (Binary.decode request body).result = .ok e) :
    e.WellFormed := by
  obtain ⟨-, _, _, _, -, -, hbuild⟩ := Binary.result_decode_eq_ok_iff.1 h
  exact wellFormed_of_build hbuild

/-- The names of the two extensions that a trace context travels in. -/
def traceNames : List String := [Attribute.traceParent, Attribute.traceState]

theorem mem_keys_carry (h : name ∈ (carry context m).keys) : name ∈ m.keys ∨ name ∈ traceNames := by
  have hparent : ∀ n, n ∈ ((m.erase Attribute.traceState).insert Attribute.traceParent
      (TraceParent.write context)).keys → n ∈ m.keys ∨ n ∈ traceNames := by
    intro n hn
    rcases OrderedMap.mem_keys_insert.1 hn with rfl | hn
    · exact Or.inr (by simp [traceNames])
    · exact Or.inl (OrderedMap.mem_keys_erase.1 hn).1
  rw [carry] at h
  split at h
  · exact hparent name h
  · rcases OrderedMap.mem_keys_insert.1 h with rfl | h
    · exact Or.inr (by simp [traceNames])
    · exact hparent name h

/-- A trace context brings no names but its own, which are free for extensions. -/
theorem wellFormed_withTrace (h : e.WellFormed) (context : SpanContext) :
    (e.withTrace context).WellFormed := by
  have hlower : ∀ n ∈ traceNames, Text.isAsciiLower n := by decide
  have hfree : ∀ n ∈ traceNames, n ∉ Attribute.reserved := by decide
  rw [withTrace]
  split
  · refine ⟨h.id_ne, h.source_ne, h.type_ne, h.version, ?_, ?_⟩
    · intro name hn
      rcases mem_keys_carry hn with hn | hn
      · exact h.lowercase name hn
      · exact Text.lowercase_of_isAsciiLower (hlower name hn)
    · intro name hn
      rcases mem_keys_carry hn with hn | hn
      · exact h.notReserved name hn
      · exact hfree name hn
  · exact h

theorem ArisesFrom.wellFormed (h : e.ArisesFrom given) : e.WellFormed := by
  induction h with
  | built _ h => exact wellFormed_of_build h
  | created _ h => exact wellFormed_of_create h
  | replaced _ _ h _ => exact wellFormed_of_replace h
  | decoded h => exact wellFormed_of_decode h
  | traced _ context ih => exact wellFormed_withTrace ih context

theorem Arises.wellFormed (h : e.Arises) : e.WellFormed := ArisesFrom.wellFormed h

theorem data_notMem_attributes (h : e.WellFormed) : Attribute.data ∉ e.attributes.keys := by
  have hdata : Attribute.data ∉ fieldNames ∧ Attribute.data ∈ Attribute.reserved := by decide
  intro hn
  rcases Binary.mem_keys_attributes h hn with hn | hn
  · exact hdata.1 hn
  · exact h.notReserved _ hn hdata.2

/-- What is known of an event, its time apart. A payload is bytes by its type, and extensions have
texts for values. -/
structure Represents (e : Event) : Prop where
  required : e.id ≠ "" ∧ e.source ≠ "" ∧ e.type ≠ "" ∧ e.specVersion = "1.0"
  distinct : e.extensions.keys.Nodup
  names : ∀ name ∈ e.extensions.keys, Text.lowercase name = name ∧ name ∉ Attribute.reserved
  /-- The attributes of the format that are present come first, and then the extensions. -/
  listed : e.attributes.toList = (e.fields.filter fun x => x.2 ≠ .null) ++
    e.extensions.toList.map fun x => (x.1, .text x.2)
  found : ∀ name value, (name, value) ∈ e.fields →
    e.attributes.get? name = if value = .null then none else some value
  once : e.attributes.keys.Nodup ∧ Attribute.data ∉ e.attributes.keys
  /-- The event is built again from its own fields. -/
  again : e.draft.build = .ok e

theorem represents_of_wellFormed (h : e.WellFormed) : e.Represents where
  required := ⟨h.id_ne, h.source_ne, h.type_ne, List.mem_singleton.1 h.version⟩
  distinct := e.extensions.nodup_keys
  names name hn := ⟨h.lowercase name hn, h.notReserved name hn⟩
  listed := by
    rw [toList_attributes h, standardAttributes_eq]
    rfl
  found _ _ hf := get?_attributes_field h hf
  once := ⟨e.attributes.nodup_keys, data_notMem_attributes h⟩
  again := build_draft h

theorem offset_of_read (h : Rfc3339.read s = .ok t) : t.offset ≠ none := by
  obtain ⟨n, hn, -⟩ := Rfc3339.wholeMinutes_of_read h
  rw [Option.mem_def.1 hn]
  exact Option.some_ne_none n

theorem offset_of_readTime {value : Scalar} (h : Binary.readTime value = .ok t) :
    t.offset ≠ none := by
  rw [Binary.readTime] at h
  obtain ⟨s, -, hread⟩ := Except.bind_eq_ok_iff.1 h
  exact offset_of_read hread

/-- A text gives an offset with the time, so a time without one was given as it is. -/
theorem time_of_build (h : d.build = .ok e) (ht : e.time = some t) (ho : t.offset = none) :
    d.time = some (.stamp t) := by
  have htime := (Draft.build_eq_ok_iff.1 h).time
  rw [ht] at htime
  obtain ⟨v, hd, hv⟩ := Draft.exists_of_optional htime
  cases v with
  | text s =>
    rw [TimeValue.resolve] at hv
    exact absurd ho (offset_of_read hv)
  | stamp u =>
    cases hv
    exact hd
  | unzoned u => cases hv

theorem time_withTrace (e : Event) (context : SpanContext) :
    (e.withTrace context).time = e.time := by
  rw [withTrace]
  split <;> rfl

theorem given_or_kept {o : Option TimeValue} {v : TimeValue}
    (hgiven : ∀ t, c.time = some (some t) → given t) (h : c.time.getD o = some v) :
    given v ∨ o = some v := by
  cases hc : c.time with
  | none =>
    rw [hc] at h
    exact Or.inr h
  | some p =>
    rw [hc] at h
    exact Or.inl (hgiven v (hc.trans (congrArg some h)))

/-- Where a time without an offset comes from: it was given so. -/
theorem ArisesFrom.given_time (h : e.ArisesFrom given) (ht : e.time = some t)
    (ho : t.offset = none) : given (.stamp t) := by
  induction h with
  | built hgiven h => exact hgiven _ (time_of_build h ht ho)
  | @created stamp c _ hgiven h =>
    rcases given_or_kept hgiven (time_of_build h ht ho) with hv | hd
    · exact hv
    -- the present moment is told in universal time
    · cases hd
      cases stamp.universal.symm.trans ho
  | @replaced e _ c _ hgiven h ih =>
    rcases given_or_kept hgiven (time_of_build h ht ho) with hv | hd
    · exact hv
    · obtain ⟨u, hu, hut⟩ := Option.map_eq_some_iff.1 hd
      cases hut
      exact ih hu
  | decoded h =>
    obtain ⟨-, time, bytes, _, hread, -, hbuild⟩ := Binary.result_decode_eq_ok_iff.1 h
    have hd : time.map TimeValue.stamp = some (.stamp t) := time_of_build hbuild ht ho
    obtain ⟨u, rfl, hut⟩ := Option.map_eq_some_iff.1 hd
    cases hut
    obtain ⟨value, -, hvalue⟩ := Draft.exists_of_optional hread
    exact absurd ho (offset_of_readTime hvalue)
  | traced _ context ih => exact ih ((time_withTrace _ context).symm.trans ht)

/-- Every timestamp can be the time of an event. -/
theorem build_orderDraft_at (t : Timestamp) :
    Draft.build { Binary.orderDraft with time := some (.stamp t) } =
      .ok { Binary.orderEvent with time := some t } := by
  have hbuild : Binary.orderDraft.build = .ok Binary.orderEvent := by decide +kernel
  have hy := Draft.build_eq_ok_iff.1 hbuild
  exact Draft.build_eq_ok_iff.2 { hy with time := rfl }

/-- Whatever times are given, every event is as it is said to be but for its time. Every event's
time has an offset exactly if every timestamp that is given has one. -/
theorem arisesFrom_represents (given : TimeValue → Prop) :
    (∀ e : Event, e.ArisesFrom given → e.Represents) ∧
    ((∀ e : Event, e.ArisesFrom given → ∀ t ∈ e.time, t.offset ≠ none) ↔
      ∀ t, given (.stamp t) → t.offset ≠ none) := by
  refine ⟨fun e h => represents_of_wellFormed h.wellFormed, fun h t ht => ?_,
    fun h e he t ht ho => h t (he.given_time ht ho) ho⟩
  refine h _ (.built ?_ (build_orderDraft_at t)) t rfl
  rintro _ ⟨⟩
  exact ht

/-- Midnight in a zone that leaves open how far ahead its clocks are. -/
def adriftTime : Timestamp := ⟨⟨2024, 1, 1, 0, 0, 0, 0⟩, none, by decide, by decide⟩

/-- The order of such a midnight is an event, though its time has no offset. Its headers are not
read. -/
theorem represents_otherwise_adrift : ∃ e : Event,
    Draft.build { Binary.orderDraft with time := some (.stamp adriftTime) } = .ok e ∧
    e.Arises ∧ e.time = some adriftTime ∧ adriftTime.offset = none ∧
    (Binary.reread (Binary.rendered e)).result =
      .error (.malformedTimestamp "2024-01-01T00:00:00") := by
  have hbuild := build_orderDraft_at adriftTime
  have hmode : Binary.checkMode (.text "text/plain") = .ok () := by decide +kernel
  have hwrite : Rfc3339.write adriftTime = "2024-01-01T00:00:00" := by decide +kernel
  refine ⟨_, hbuild, Arises.built hbuild, rfl, rfl, ?_⟩
  rw [Binary.reread_rendered_of_time (wellFormed_of_build hbuild) hmode rfl (by decide), hwrite]

/-- The context of a span that went through a shop. -/
def shopContext : SpanContext := { traceId := 10, spanId := 7, state := [("shop", "a1")] }

end CloudEvents.Event
