import CloudEvents.Proofs.Event.Arising

/-! What a trace context does to the event that it is put into. -/
namespace CloudEvents.Event

open Attribute

variable {e : Event} {c d : SpanContext} {m : OrderedMap String}

theorem get?_traceParent_carry (c : SpanContext) (m : OrderedMap String) :
    (carry c m).get? traceParent = some (TraceParent.write c) := by
  have hne : traceParent ≠ traceState := by decide
  rw [carry]
  split
  · exact OrderedMap.get?_insert_self _
  · rw [OrderedMap.get?_insert_of_ne _ hne]
    exact OrderedMap.get?_insert_self _

/-- An old trace state is gone, even if there is no new one. -/
theorem get?_traceState_carry (c : SpanContext) (m : OrderedMap String) :
    (carry c m).get? traceState =
      if c.state = [] then none else some (TraceState.write c.state) := by
  have hne : traceState ≠ traceParent := by decide
  rw [carry]
  split
  · rw [OrderedMap.get?_insert_of_ne _ hne]
    exact OrderedMap.get?_erase_self m traceState
  · exact OrderedMap.get?_insert_self _

/-- The entries that are no part of a trace context, in their order. -/
def untraced (m : OrderedMap String) : List (String × String) :=
  m.toList.filter fun x => x.1 ∉ traceNames

theorem untraced_insert {name : String} (h : name ∈ traceNames) (value : String)
    (m : OrderedMap String) : untraced (m.insert name value) = untraced m :=
  OrderedMap.filter_put_of_neg (p := (· ∉ traceNames)) (by simpa using h) m.toList

theorem untraced_erase {name : String} (h : name ∈ traceNames) (m : OrderedMap String) :
    untraced (m.erase name) = untraced m := by
  rw [untraced, OrderedMap.erase, List.filter_filter, untraced]
  refine List.filter_congr fun x _ => ?_
  by_cases hx : x.1 = name <;> simp [hx, h]

theorem untraced_carry (c : SpanContext) (m : OrderedMap String) :
    untraced (carry c m) = untraced m := by
  have hparent : traceParent ∈ traceNames := by decide
  have hstate : traceState ∈ traceNames := by decide
  rw [carry]
  split
  · rw [untraced_insert hparent, untraced_erase hstate]
  · rw [untraced_insert hstate, untraced_insert hparent, untraced_erase hstate]

/-- Of a carried context, only where its parent stands outlives the erasing of its state. -/
theorem erase_carry (c : SpanContext) (m : OrderedMap String) : (carry c m).erase traceState =
    (m.erase traceState).insert traceParent (TraceParent.write c) := by
  have hne : traceParent ≠ traceState := by decide
  have hparent : ((m.erase traceState).insert traceParent (TraceParent.write c)).erase traceState =
      (m.erase traceState).insert traceParent (TraceParent.write c) := by
    rw [OrderedMap.erase_insert_of_ne _ hne, OrderedMap.erase_erase]
  rw [carry]
  split
  · exact hparent
  · rw [OrderedMap.erase_insert_self, hparent]

/-- The last of two contexts stays. -/
theorem carry_carry (c d : SpanContext) (m : OrderedMap String) :
    carry d (carry c m) = carry d m := by
  rw [carry, erase_carry, OrderedMap.insert_insert, carry]

theorem withTrace_of_valid (h : c.Valid) (e : Event) :
    e.withTrace c = { e with extensions := carry c e.extensions } := if_pos h

theorem withTrace_of_not_valid (h : ¬ c.Valid) (e : Event) : e.withTrace c = e := if_neg h

theorem withTrace_withTrace (hd : d.Valid) (e : Event) (c : SpanContext) :
    (e.withTrace c).withTrace d = e.withTrace d := by
  by_cases hc : c.Valid
  · rw [withTrace_of_valid hc, withTrace_of_valid hd, withTrace_of_valid hd, carry_carry]
  · rw [withTrace_of_not_valid hc]

/-- The event with a context is the one that comes of changing the extensions, all of it being
checked again. -/
theorem replace_carry (h : e.WellFormed) (hc : c.Valid) :
    e.replace { extensions := some ((carry c e.extensions).map .text) } =
      .ok (e.withTrace c) := by
  have hagain := build_draft (wellFormed_withTrace h c)
  rw [withTrace_of_valid hc] at hagain ⊢
  exact hagain

/-- A context that is put into an event takes the place of the one that was there, if there was one,
and touches nothing else; an invalid one touches nothing at all. -/
theorem Arises.withTrace_replaces (he : e.Arises) (c : SpanContext) :
    (¬ c.Valid → e.withTrace c = e) ∧
    (c.Valid →
      e.replace { extensions := some ((carry c e.extensions).map .text) } = .ok (e.withTrace c) ∧
      e.withTrace c = { e with extensions := (e.withTrace c).extensions } ∧
      untraced (e.withTrace c).extensions = untraced e.extensions ∧
      (e.withTrace c).extensions.get? traceParent = some (TraceParent.write c) ∧
      (e.withTrace c).extensions.get? traceState =
        (if c.state = [] then none else some (TraceState.write c.state)) ∧
      ∀ d : SpanContext, d.Valid → (e.withTrace c).withTrace d = e.withTrace d) := by
  refine ⟨fun hc => withTrace_of_not_valid hc e, fun hc => ?_⟩
  refine ⟨replace_carry he.wellFormed hc, ?_⟩
  have hlast : ∀ d : SpanContext, d.Valid → (e.withTrace c).withTrace d = e.withTrace d :=
    fun d hd => withTrace_withTrace hd e c
  rw [withTrace_of_valid hc] at hlast ⊢
  exact ⟨rfl, untraced_carry c _, get?_traceParent_carry c _, get?_traceState_carry c _, hlast⟩

/-- The context of a span on which no system left anything. -/
def plainContext : SpanContext := { traceId := 11, spanId := 8, flags := 0 }

/-- The trace of an order that came through a shop is replaced by one that has no state. -/
theorem withTrace_replaces_order :
    (Binary.orderEvent.withTrace shopContext).extensions.get? traceState = some "shop=a1" ∧
    ((Binary.orderEvent.withTrace shopContext).withTrace plainContext).extensions.get? traceState =
      none ∧
    (Binary.orderEvent.withTrace shopContext).withTrace plainContext =
      Binary.orderEvent.withTrace plainContext ∧
    Binary.orderEvent.withTrace .absent = Binary.orderEvent := by
  have hbuild : Binary.orderDraft.build = .ok Binary.orderEvent := by decide +kernel
  have hshop : shopContext.Valid := by decide
  have hplain : plainContext.Valid := by decide
  have he := Arises.built hbuild
  obtain ⟨-, -, -, -, hstate, hlast⟩ := (he.withTrace_replaces shopContext).2 hshop
  have htraced := he.traced shopContext
  obtain ⟨-, -, -, -, hnone, -⟩ := (htraced.withTrace_replaces plainContext).2 hplain
  refine ⟨hstate.trans (by decide), hnone, hlast plainContext hplain, ?_⟩
  exact (he.withTrace_replaces .absent).1 (by decide)

end CloudEvents.Event
