import CloudEvents.Binary.Decode
import CloudEvents.Binary.Encode
import CloudEvents.Proofs.Event.Attributes

/-! The headers of an event: no two attributes share one behind the usual lead. -/
namespace CloudEvents.Binary

open Attribute Text

variable {e : Event} {name other : String} {value : Scalar}

theorem headLead_append_ne (s : String) : headerLead ++ s ≠ contentType ∧
    headerLead ++ s ≠ contentLength := by
  have hnone : after? headerLead contentType = none ∧ after? headerLead contentLength = none := by
    decide
  constructor
  · intro h
    have hs := after?_append headerLead s
    simp [h, hnone.1] at hs
  · intro h
    have hs := after?_append headerLead s
    simp [h, hnone.2] at hs

theorem headerName_of_ne (lead : String) (h : name ≠ dataContentType) :
    headerName lead name = lead ++ name := if_neg h

theorem headerName_dataContentType (lead : String) :
    headerName lead dataContentType = contentType := if_pos rfl

theorem headerName_ne_contentLength (name : String) :
    headerName headerLead name ≠ contentLength := by
  rw [headerName]
  split
  · decide
  · exact (headLead_append_ne name).2

theorem headerName_injective : Function.Injective (headerName headerLead) := by
  intro a b h
  by_cases ha : a = dataContentType <;> by_cases hb : b = dataContentType
  · rw [ha, hb]
  · rw [headerName, if_pos ha, headerName_of_ne _ hb] at h
    exact absurd h.symm (headLead_append_ne b).1
  · rw [headerName_of_ne _ ha, headerName, if_pos hb] at h
    exact absurd h (headLead_append_ne a).1
  · rw [headerName_of_ne _ ha, headerName_of_ne _ hb] at h
    exact String.append_right_inj headerLead |>.1 h

theorem lowercase_contentType : lowercase contentType = contentType :=
  lowercase_of_isAsciiLower (by decide)

theorem lowercase_contentLength : lowercase contentLength = contentLength :=
  lowercase_of_isAsciiLower (by decide)

theorem lowercase_headerLead : lowercase headerLead = headerLead :=
  lowercase_of_isAsciiLower (by decide)

theorem lowercase_headerName (h : lowercase name = name) :
    lowercase (headerName headerLead name) = headerName headerLead name := by
  rw [headerName]
  split
  · exact lowercase_contentType
  · exact lowercase_append lowercase_headerLead h

theorem toList_toHeaders (e : Event) : (toHeaders e headerLead).toList =
    e.attributes.toList.map fun x => (headerName headerLead x.1, x.2) :=
  OrderedMap.toList_mapKeys fun _ _ _ _ h => headerName_injective h

theorem get?_toHeaders (e : Event) (name : String) :
    (toHeaders e headerLead).get? (headerName headerLead name) = e.attributes.get? name :=
  OrderedMap.get?_mapKeys headerName_injective e.attributes name

theorem mem_keys_toHeaders :
    name ∈ (toHeaders e headerLead).keys ↔
      ∃ a ∈ e.attributes.keys, headerName headerLead a = name :=
  OrderedMap.mem_keys_mapKeys

theorem contentLength_notMem (e : Event) : contentLength ∉ (toHeaders e headerLead).keys := by
  intro h
  obtain ⟨a, -, ha⟩ := mem_keys_toHeaders.1 h
  exact headerName_ne_contentLength a ha

theorem mem_keys_attributes (h : e.WellFormed) (hn : name ∈ e.attributes.keys) :
    name ∈ Event.fieldNames ∨ name ∈ e.extensions.keys := by
  obtain ⟨⟨n, v⟩, hm, rfl⟩ := List.mem_map.1 hn
  rcases (Event.mem_attributes h).1 hm with hm | hm
  · exact Or.inl (Event.mem_fieldNames_of_mem hm.1)
  · right
    rw [← OrderedMap.keys_map Scalar.text]
    exact OrderedMap.mem_keys_of_mem hm

theorem lowercase_of_mem_toHeaders (h : e.WellFormed)
    (hn : name ∈ (toHeaders e headerLead).keys) : lowercase name = name := by
  obtain ⟨a, ha, rfl⟩ := mem_keys_toHeaders.1 hn
  apply lowercase_headerName
  rcases mem_keys_attributes h ha with ha | ha
  · exact Event.lowercase_of_mem_fieldNames ha
  · exact h.lowercase a ha

theorem roleOf_field (h : name ∈ Event.fieldNames) :
    Role.of (headerName headerLead name) = .standard ∨
      Role.of (headerName headerLead name) = .unrelated := by
  have hall : ∀ n ∈ Event.fieldNames, Role.of (headerName headerLead n) = .standard ∨
      Role.of (headerName headerLead n) = .unrelated := by decide
  exact hall name h

theorem roleOf_lead (name : String) : Role.of (headerLead ++ name) =
    if name ∈ headerMapped then .standard
    else if name ∈ reserved ∨ name = "" then .ignored else .extension name := by
  simp only [Role.of, after?_append]

end CloudEvents.Binary
