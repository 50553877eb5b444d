import CloudEvents.Proofs.Event.Arising

/-! Events that are changed more than once, as if all changes were made in one step. -/
namespace CloudEvents

variable {α β : Type} {a b c : Changes} {d d' : Draft} {e f : Event}

namespace Draft

/-- Holds of two drafts whose fields are taken for the same, or refused for the same fault. -/
structure Matches (d d' : Draft) : Prop where
  id : requireText Attribute.id d.id = requireText Attribute.id d'.id
  source : requireText Attribute.source d.source = requireText Attribute.source d'.source
  type : requireText Attribute.type d.type = requireText Attribute.type d'.type
  specVersion : requireText Attribute.specVersion d.specVersion =
    requireText Attribute.specVersion d'.specVersion
  dataContentType : d.dataContentType = d'.dataContentType
  dataSchema : d.dataSchema = d'.dataSchema
  subject : d.subject = d'.subject
  time : optional TimeValue.resolve d.time = optional TimeValue.resolve d'.time
  data : optional Payload.resolve d.data = optional Payload.resolve d'.data
  extensions : checkExtensions d.extensions = checkExtensions d'.extensions

theorem Matches.build_eq (h : d.Matches d') : d.build = d'.build := by
  simp only [build, h.id, h.source, h.type, h.specVersion, h.dataContentType, h.dataSchema,
    h.subject, h.time, h.data, h.extensions]

theorem getD_congr {g : α → β} {x y : α} (h : g x = g y) (o : Option α) :
    g (o.getD x) = g (o.getD y) := by
  cases o with
  | none => exact h
  | some _ => rfl

/-- A field that is changed matches itself, and the others match as before. -/
theorem Matches.apply (h : d.Matches d') (c : Changes) : (c.apply d).Matches (c.apply d') where
  id := getD_congr h.id c.id
  source := getD_congr h.source c.source
  type := getD_congr h.type c.type
  specVersion := getD_congr h.specVersion c.specVersion
  dataContentType := congrArg c.dataContentType.getD h.dataContentType
  dataSchema := congrArg c.dataSchema.getD h.dataSchema
  subject := congrArg c.subject.getD h.subject
  time := getD_congr h.time c.time
  data := getD_congr h.data c.data
  extensions := getD_congr h.extensions c.extensions

theorem Yields.matches (h : d.Yields e) (h' : d'.Yields e) : d.Matches d' where
  id := h.id.trans h'.id.symm
  source := h.source.trans h'.source.symm
  type := h.type.trans h'.type.symm
  specVersion := h.specVersion.trans h'.specVersion.symm
  dataContentType := h.dataContentType.trans h'.dataContentType.symm
  dataSchema := h.dataSchema.trans h'.dataSchema.symm
  subject := h.subject.trans h'.subject.symm
  time := h.time.trans h'.time.symm
  data := h.data.trans h'.data.symm
  extensions := h.extensions.trans h'.extensions.symm

/-- What a draft was built into stands for the draft. -/
theorem matches_of_build (h : d.build = .ok e) : d.Matches e.draft :=
  (build_eq_ok_iff.1 h).matches (Event.yields_draft (Event.wellFormed_of_build h))

end Draft

/-- Holds of two events that differ in no field but those that are changed. -/
structure Changes.Keeps (c : Changes) (e f : Event) : Prop where
  id : c.id = none → f.id = e.id
  source : c.source = none → f.source = e.source
  type : c.type = none → f.type = e.type
  specVersion : c.specVersion = none → f.specVersion = e.specVersion
  dataContentType : c.dataContentType = none → f.dataContentType = e.dataContentType
  dataSchema : c.dataSchema = none → f.dataSchema = e.dataSchema
  subject : c.subject = none → f.subject = e.subject
  time : c.time = none → f.time = e.time
  data : c.data = none → f.data = e.data
  extensions : c.extensions = none → f.extensions = e.extensions

namespace Event

/-- A field that is left as it is, is taken for what it was taken for before. -/
theorem eq_of_kept {g : α → Except Fault β} {o : Option α} {x : α} {u v : β} (hx : g x = .ok u)
    (h : g (o.getD x) = .ok v) (ho : o = none) : v = u := by
  rw [ho, Option.getD_none, hx] at h
  exact (Except.ok.inj h).symm

theorem keeps_of_replace (h : e.WellFormed) (hr : e.replace c = .ok f) : c.Keeps e f := by
  have hbefore := yields_draft h
  have hafter := Draft.build_eq_ok_iff.1 hr
  exact {
    id := eq_of_kept hbefore.id hafter.id
    source := eq_of_kept hbefore.source hafter.source
    type := eq_of_kept hbefore.type hafter.type
    specVersion := eq_of_kept hbefore.specVersion hafter.specVersion
    dataContentType := eq_of_kept (g := Except.ok) rfl (congrArg _ hafter.dataContentType)
    dataSchema := eq_of_kept (g := Except.ok) rfl (congrArg _ hafter.dataSchema)
    subject := eq_of_kept (g := Except.ok) rfl (congrArg _ hafter.subject)
    time := eq_of_kept hbefore.time hafter.time
    data := eq_of_kept hbefore.data hafter.data
    extensions := eq_of_kept hbefore.extensions hafter.extensions }

/-- Changes to a changed event are further changes to the one it came from. -/
theorem replace_of_replace (h : e.replace a = .ok f) (b : Changes) :
    f.replace b = e.replace (a.followedBy b) := by
  have hmatches := (Draft.matches_of_build h).apply b
  rw [replace, replace, Changes.apply_followedBy, hmatches.build_eq]

/-- To change nothing gives the event again, a change leaves every other field alone, and two
changes are one, whether or not it is accepted. An event is a value, so whatever comes of a change,
what was changed is still there. -/
theorem Arises.replace_followedBy (he : e.Arises) (a b : Changes) :
    e.replace {} = .ok e ∧
    ∀ f, e.replace a = .ok f → a.Keeps e f ∧ f.replace b = e.replace (a.followedBy b) := by
  refine ⟨build_draft he.wellFormed, fun f h => ⟨keeps_of_replace he.wellFormed h, ?_⟩⟩
  exact replace_of_replace h b

/-- Changes to an order whose values are not yet in the form that an event has them in. -/
def roughChanges : Changes where
  time := some (some (.text "2024-05-01t12:30:00z"))
  data := some (some (.numbers [1, 255]))
  extensions := some (.ofList [("Trace-Id", .int 7), ("TRACE-ID", .bool true)])

/-- The order after them. -/
def roughOrder : Event :=
  { Binary.orderEvent with
    time := some ⟨⟨2024, 5, 1, 12, 30, 0, 0⟩, some 0, by decide, by decide⟩
    data := some [1, 255]
    extensions := .ofList [("trace-id", "True")] }

/-- The order is changed further, and it is refused another version, as if all had come at once. -/
theorem replace_followedBy_order : Binary.orderEvent.replace roughChanges = .ok roughOrder ∧
    roughOrder.subject = Binary.orderEvent.subject ∧
    roughOrder.replace { data := some none } =
      Binary.orderEvent.replace (roughChanges.followedBy { data := some none }) ∧
    Binary.orderEvent.replace (roughChanges.followedBy { specVersion := some (some "0.3") }) =
      .error (.unsupportedVersion "0.3") := by
  have hbuild : Binary.orderDraft.build = .ok Binary.orderEvent := by decide +kernel
  have hrough : Binary.orderEvent.replace roughChanges = .ok roughOrder := by decide +kernel
  have hchanged := fun b => ((Arises.built hbuild).replace_followedBy roughChanges b).2 _ hrough
  refine ⟨hrough, (hchanged {}).1.subject rfl, (hchanged _).2, ?_⟩
  rw [← (hchanged _).2]
  decide +kernel

end Event

end CloudEvents
