import CloudEvents.Proofs.Event.WellFormed

/-! The attributes of an event, each looked up under its own name. -/
namespace CloudEvents.Event

variable {e : Event} {name : String} {value : Scalar}

/-- Every attribute of the format, with the null for one that is absent. -/
def fields (e : Event) : List (String × Scalar) :=
  [(Attribute.specVersion, .text e.specVersion), (Attribute.id, .text e.id),
    (Attribute.source, .text e.source), (Attribute.type, .text e.type),
    (Attribute.dataContentType, e.dataContentType), (Attribute.dataSchema, e.dataSchema),
    (Attribute.subject, e.subject), (Attribute.time, e.timeValue)]

def fieldNames : List String :=
  [Attribute.specVersion, Attribute.id, Attribute.source, Attribute.type,
    Attribute.dataContentType, Attribute.dataSchema, Attribute.subject, Attribute.time]

theorem keys_fields (e : Event) : e.fields.map Prod.fst = fieldNames := rfl

theorem nodup_fieldNames : fieldNames.Nodup := by decide

theorem reserved_of_mem_fieldNames (h : name ∈ fieldNames) : name ∈ Attribute.reserved := by
  have hall : ∀ n ∈ fieldNames, n ∈ Attribute.reserved := by decide
  exact hall name h

theorem mem_fieldNames_or_eq_data (h : name ∈ Attribute.reserved) :
    name ∈ fieldNames ∨ name = Attribute.data := by
  have hall : ∀ n ∈ Attribute.reserved, n ∈ fieldNames ∨ n = Attribute.data := by decide
  exact hall name h

theorem lowercase_of_mem_fieldNames (h : name ∈ fieldNames) : Text.lowercase name = name := by
  have hall : ∀ n ∈ fieldNames, Text.isAsciiLower n := by decide
  exact Text.lowercase_of_isAsciiLower (hall name h)

theorem entry_eq_filter (name : String) (value : Scalar) :
    entry name value = [(name, value)].filter fun x => x.2 ≠ .null := by
  by_cases h : value = .null <;> simp [entry, h]

theorem standardAttributes_eq (e : Event) :
    e.standardAttributes = e.fields.filter fun x => x.2 ≠ .null := by
  have hsplit : e.fields = e.fields.take 4 ++ [(Attribute.dataContentType, e.dataContentType)] ++
      [(Attribute.dataSchema, e.dataSchema)] ++ [(Attribute.subject, e.subject)] ++
      [(Attribute.time, e.timeValue)] := rfl
  rw [hsplit]
  simp only [List.filter_append, ← entry_eq_filter]
  rfl

theorem mem_standardAttributes :
    (name, value) ∈ e.standardAttributes ↔ (name, value) ∈ e.fields ∧ value ≠ .null := by
  simp [standardAttributes_eq]

theorem mem_fieldNames_of_mem (h : (name, value) ∈ e.fields) : name ∈ fieldNames := by
  rw [← keys_fields e]
  exact List.mem_map.2 ⟨_, h, rfl⟩

theorem eq_of_mem_fields {other : Scalar} (h : (name, value) ∈ e.fields)
    (ho : (name, other) ∈ e.fields) : value = other := by
  have hn : (e.fields.map Prod.fst).Nodup := nodup_fieldNames
  exact congrArg Prod.snd (List.inj_on_of_nodup_map hn h ho rfl)

theorem toList_attributes (h : e.WellFormed) :
    e.attributes.toList = e.standardAttributes ++ (e.extensions.map .text).toList := by
  apply OrderedMap.toList_ofList
  rw [List.map_append, List.nodup_append]
  refine ⟨?_, (e.extensions.map Scalar.text).nodup, ?_⟩
  · rw [standardAttributes_eq]
    exact nodup_fieldNames.sublist (List.filter_sublist.map Prod.fst)
  · rintro a ha b hb rfl
    obtain ⟨⟨n, v⟩, hv, rfl⟩ := List.mem_map.1 ha
    have hfield := mem_fieldNames_of_mem (mem_standardAttributes.1 hv).1
    have hext : n ∈ e.extensions.keys := by
      rw [← OrderedMap.keys_map Scalar.text]
      exact hb
    exact h.notReserved n hext (reserved_of_mem_fieldNames hfield)

theorem mem_attributes (h : e.WellFormed) : (name, value) ∈ e.attributes.toList ↔
    (name, value) ∈ e.fields ∧ value ≠ .null ∨ (name, value) ∈ (e.extensions.map .text).toList := by
  rw [toList_attributes h, List.mem_append, mem_standardAttributes]

theorem get?_attributes_field (h : e.WellFormed) (hf : (name, value) ∈ e.fields) :
    e.attributes.get? name = if value = .null then none else some value := by
  have hname := mem_fieldNames_of_mem hf
  by_cases hv : value = .null
  · rw [if_pos hv, OrderedMap.get?_eq_none_iff]
    intro hk
    obtain ⟨⟨n, v⟩, hm, rfl⟩ := List.mem_map.1 hk
    rcases (mem_attributes h).1 hm with ⟨hm, hne⟩ | hm
    · exact hne ((eq_of_mem_fields hm hf).trans hv)
    · have hext : n ∈ e.extensions.keys := by
        rw [← OrderedMap.keys_map Scalar.text]
        exact OrderedMap.mem_keys_of_mem hm
      exact h.notReserved n hext (reserved_of_mem_fieldNames hname)
  · rw [if_neg hv, OrderedMap.get?_eq_some_iff, mem_attributes h]
    exact Or.inl ⟨hf, hv⟩

theorem get?_attributes_time (h : e.WellFormed) :
    e.attributes.get? Attribute.time = e.time.map fun t => .text (Rfc3339.write t) := by
  rw [get?_attributes_field h (show (Attribute.time, e.timeValue) ∈ e.fields by simp [fields])]
  cases ht : e.time <;> simp [timeValue, ht]

/-- A name that the format does not have for itself is looked up among the extensions. -/
theorem get?_attributes_extension (h : e.WellFormed) (hn : name ∉ fieldNames) :
    e.attributes.get? name = (e.extensions.get? name).map .text := by
  have hmem : ∀ v, (name, v) ∈ e.attributes.toList ↔
      (name, v) ∈ (e.extensions.map .text).toList := by
    intro v
    rw [mem_attributes h, or_iff_right]
    exact fun hf => hn (mem_fieldNames_of_mem hf.1)
  rw [← OrderedMap.get?_map]
  ext v
  rw [OrderedMap.get?_eq_some_iff, OrderedMap.get?_eq_some_iff, hmem v]

end CloudEvents.Event
