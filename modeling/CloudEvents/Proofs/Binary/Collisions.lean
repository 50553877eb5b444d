import CloudEvents.Proofs.Event.Arising

/-! Attributes that share a header, one of which is lost. -/
namespace CloudEvents.Binary

open Attribute

variable {e : Event} {lead name a b : String}

/-- Holds where another attribute has the header of the data content type, and that one is there. -/
def Collides (e : Event) (lead : String) : Prop :=
  e.dataContentType ≠ .null ∧
    ∃ name ∈ e.attributes.keys, name ≠ dataContentType ∧ lead ++ name = contentType

instance (e : Event) (lead : String) : Decidable (Collides e lead) :=
  inferInstanceAs (Decidable (_ ∧ ∃ name ∈ e.attributes.keys, _ ∧ _))

theorem dataContentType_mem_keys (h : e.WellFormed) :
    dataContentType ∈ e.attributes.keys ↔ e.dataContentType ≠ .null := by
  have hfield : (dataContentType, e.dataContentType) ∈ e.fields := by simp [Event.fields]
  rw [← OrderedMap.isSome_get?, Event.get?_attributes_field h hfield]
  split <;> simp_all

/-- Two names with one header are the same, or one is that of the data content type. -/
theorem headerName_eq_cases (h : headerName lead a = headerName lead b) : a = b ∨
    a = dataContentType ∧ b ≠ dataContentType ∧ lead ++ b = contentType ∨
    b = dataContentType ∧ a ≠ dataContentType ∧ lead ++ a = contentType := by
  by_cases ha : a = dataContentType <;> by_cases hb : b = dataContentType
  · exact Or.inl (ha.trans hb.symm)
  · rw [ha, headerName_dataContentType, headerName_of_ne lead hb] at h
    exact Or.inr (Or.inl ⟨ha, hb, h.symm⟩)
  · rw [hb, headerName_dataContentType, headerName_of_ne lead ha] at h
    exact Or.inr (Or.inr ⟨hb, ha, h⟩)
  · rw [headerName_of_ne lead ha, headerName_of_ne lead hb] at h
    exact Or.inl ((String.append_right_inj lead).1 h)

theorem eq_of_not_collides (h : e.WellFormed) (hc : ¬ Collides e lead) (ha : a ∈ e.attributes.keys)
    (hb : b ∈ e.attributes.keys) (hab : headerName lead a = headerName lead b) : a = b := by
  rcases headerName_eq_cases hab with hab | ⟨rfl, hne, hname⟩ | ⟨rfl, hne, hname⟩
  · exact hab
  · exact absurd ⟨(dataContentType_mem_keys h).1 ha, b, hb, hne, hname⟩ hc
  · exact absurd ⟨(dataContentType_mem_keys h).1 hb, a, ha, hne, hname⟩ hc

/-- Without a collision there is a header for each attribute. -/
theorem toList_toHeaders_of_not_collides (h : e.WellFormed) (hc : ¬ Collides e lead) :
    (toHeaders e lead).toList = e.attributes.toList.map fun x => (headerName lead x.1, x.2) :=
  OrderedMap.toList_mapKeys fun _ ha _ hb hab => eq_of_not_collides h hc ha hb hab

/-- Holds of two attributes that share a header, one of them being the data content type. -/
def Rivals (lead : String) (first second : String × Scalar) : Prop :=
  first.1 = dataContentType ∧ lead ++ second.1 = contentType ∨
    second.1 = dataContentType ∧ lead ++ first.1 = contentType

namespace Rivals

variable {first second : String × Scalar}

theorem names_ne (h : Rivals lead first second) (hne : first.1 ≠ second.1) :
    headerName lead first.1 = contentType ∧ headerName lead second.1 = contentType := by
  rcases h with ⟨hfirst, hname⟩ | ⟨hsecond, hname⟩
  · rw [hfirst] at hne ⊢
    rw [headerName_dataContentType, headerName_of_ne lead hne.symm]
    exact ⟨rfl, hname⟩
  · rw [hsecond] at hne ⊢
    rw [headerName_dataContentType, headerName_of_ne lead hne]
    exact ⟨hname, rfl⟩

/-- No third attribute has their header, nor do any others have one together. -/
theorem eq_of_headerName_eq (h : Rivals lead first second) (ha : a ≠ first.1) (hb : b ≠ first.1)
    (hab : headerName lead a = headerName lead b) : a = b := by
  have hother : ∀ c, c ≠ first.1 → lead ++ c = contentType → first.1 = dataContentType := by
    intro c hc hname
    rcases h with ⟨hfirst, -⟩ | ⟨-, hfirst⟩
    · exact hfirst
    · exact absurd ((String.append_right_inj lead).1 (hname.trans hfirst.symm)) hc
  rcases headerName_eq_cases hab with hab | ⟨rfl, -, hname⟩ | ⟨rfl, -, hname⟩
  · exact hab
  · exact absurd (hother b hb hname).symm ha
  · exact absurd (hother a ha hname).symm hb

end Rivals

theorem exists_rivals (h : e.WellFormed) (hc : Collides e lead) :
    ∃ before first between second after,
      e.attributes.toList = before ++ first :: between ++ second :: after ∧
      Rivals lead first second := by
  obtain ⟨htype, name, hname, hne, hlead⟩ := hc
  obtain ⟨x, hx, hxname⟩ := List.mem_map.1 ((dataContentType_mem_keys h).2 htype)
  obtain ⟨y, hy, hyname⟩ := List.mem_map.1 hname
  have hxy : x ≠ y := by
    rintro rfl
    exact hne (hyname.symm.trans hxname)
  obtain ⟨before, between, after, hlist | hlist⟩ := List.exists_split hx hy hxy
  · exact ⟨before, x, between, y, after, hlist, Or.inl ⟨hxname, by rw [hyname, hlead]⟩⟩
  · exact ⟨before, y, between, x, after, hlist, Or.inr ⟨hxname, by rw [hyname, hlead]⟩⟩

/-- Of two attributes with one header the first is lost, and the second has its place. -/
theorem toList_toHeaders_of_rivals {before between after : List (String × Scalar)}
    {first second : String × Scalar}
    (hlist : e.attributes.toList = before ++ first :: between ++ second :: after)
    (hr : Rivals lead first second) :
    (toHeaders e lead).toList =
      (before ++ second :: between ++ after).map fun x => (headerName lead x.1, x.2) := by
  have hne : first.1 ≠ second.1 := by
    have hnodup := e.attributes.nodup
    rw [hlist, List.append_assoc, List.map_append, List.nodup_append] at hnodup
    have hrest := (List.nodup_cons.1 hnodup.2.1).1
    intro heq
    exact hrest (by simp [heq])
  obtain ⟨hfirst, hsecond⟩ := hr.names_ne hne
  exact OrderedMap.toList_mapKeys_merged hlist (hfirst.trans hsecond.symm)
    fun _ _ _ _ ha hb hab => hr.eq_of_headerName_eq ha hb hab

theorem not_collides_headerLead (e : Event) : ¬ Collides e headerLead := by
  rintro ⟨-, name, -, -, hname⟩
  exact (headLead_append_ne name).1 hname

/-- An attribute is lost exactly where another one has the header of the data content type. Then the
one of the two that comes first is lost, and else nothing is: each attribute is under its header, in
its order and with its value. With the usual lead this is so of all events. -/
theorem toHeaders_collides (h : e.Arises) (lead : String) :
    ((toHeaders e lead).size < e.attributes.size ↔ Collides e lead) ∧
    (Collides e lead → (toHeaders e lead).size + 1 = e.attributes.size ∧
      ∃ before first between second after,
        e.attributes.toList = before ++ first :: between ++ second :: after ∧
        Rivals lead first second ∧
        (toHeaders e lead).toList =
          (before ++ second :: between ++ after).map fun x => (headerName lead x.1, x.2)) ∧
    (¬ Collides e lead → (toHeaders e lead).toList =
      e.attributes.toList.map fun x => (headerName lead x.1, x.2)) ∧
    (lead = headerLead → ¬ Collides e lead ∧ contentLength ∉ (toHeaders e lead).keys ∧
      ∀ a ∈ e.attributes.keys, ∀ b ∈ e.attributes.keys,
        headerName lead a = headerName lead b → a = b) := by
  have hw := h.wellFormed
  have hkept : ¬ Collides e lead → (toHeaders e lead).toList =
      e.attributes.toList.map fun x => (headerName lead x.1, x.2) :=
    toList_toHeaders_of_not_collides hw
  have hlost : Collides e lead → (toHeaders e lead).size + 1 = e.attributes.size ∧
      ∃ before first between second after,
        e.attributes.toList = before ++ first :: between ++ second :: after ∧
        Rivals lead first second ∧
        (toHeaders e lead).toList =
          (before ++ second :: between ++ after).map fun x => (headerName lead x.1, x.2) := by
    intro hc
    obtain ⟨before, first, between, second, after, hlist, hr⟩ := exists_rivals hw hc
    have hheaders := toList_toHeaders_of_rivals hlist hr
    refine ⟨?_, before, first, between, second, after, hlist, hr, hheaders⟩
    simp only [OrderedMap.size, hheaders, hlist, List.length_map, List.length_append,
      List.length_cons]
    omega
  refine ⟨⟨fun hlt => ?_, fun hc => ?_⟩, hlost, hkept, ?_⟩
  · by_contra hc
    simp only [OrderedMap.size, hkept hc, List.length_map] at hlt
    omega
  · have := (hlost hc).1
    omega
  · rintro rfl
    exact ⟨not_collides_headerLead e, contentLength_notMem e,
      fun _ _ _ _ hab => headerName_injective hab⟩

/-- The type of an order takes the header of the content type behind another lead. -/
theorem toHeaders_collides_order :
    orderEvent.Arises ∧ Collides orderEvent "content-" ∧ ¬ Collides orderEvent "ce-" ∧
    (toHeaders orderEvent "content-").size + 1 = orderEvent.attributes.size ∧
    (toHeaders orderEvent "content-").get? "content-type" = some (.text "text/plain") ∧
    (toHeaders orderEvent "ce-").size = orderEvent.attributes.size := by
  have hbuild : orderDraft.build = .ok orderEvent := by decide +kernel
  have hc : Collides orderEvent "content-" := by decide +kernel
  have hn : ¬ Collides orderEvent "ce-" := by decide +kernel
  obtain ⟨-, hlost, -, -⟩ := toHeaders_collides (.built hbuild) "content-"
  obtain ⟨-, -, hkept, -⟩ := toHeaders_collides (.built hbuild) "ce-"
  refine ⟨.built hbuild, hc, hn, (hlost hc).1, by decide +kernel, ?_⟩
  rw [OrderedMap.size, hkept hn, List.length_map, OrderedMap.size]

end CloudEvents.Binary
