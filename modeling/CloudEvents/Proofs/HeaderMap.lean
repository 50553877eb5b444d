import CloudEvents.HeaderMap
import CloudEvents.Proofs.OrderedMap
import CloudEvents.Proofs.Text.Casing
import Mathlib.Data.Finset.Card

/-! What headers tell of the items that they are made of, whatever the case of the names. -/
namespace CloudEvents.HeaderMap

open Text
open Scalar (canonical)

variable {items others : List (String × Scalar)} {g h : HeaderMap} {name : String} {value : Scalar}
  {f : Fault}

/-- The names of items in lowercase, as often as they come. -/
def spelled (items : List (String × Scalar)) : List String := items.map fun e => lowercase e.1

/-- Holds of the value of the last item that has the name, in whatever case. -/
def LastOf (items : List (String × Scalar)) (name : String) (value : Scalar) : Prop :=
  ∃ before given after, items = before ++ (given, value) :: after ∧
    lowercase given = lowercase name ∧ ∀ e ∈ after, lowercase e.1 ≠ lowercase name

/-- Headers whose values are texts. -/
def ofTexts (items : List (String × String)) : HeaderMap :=
  ofList (items.map fun e => (e.1, .text e.2))

/-- What headers say of the items that they are made of. -/
structure Tells (h : HeaderMap) (items : List (String × Scalar)) : Prop where
  get : ∀ name value, h.get name = .ok value ↔ LastOf items name value
  found : ∀ name, (∃ value, h.get name = .ok value) ↔ h.contains (.text name)
  missing : ∀ name f, h.get name = .error f ↔
    f = .unknownHeader (lowercase name) ∧ ¬ h.contains (.text name)
  contains : ∀ name, h.contains (.text name) ↔ ∃ e ∈ items, lowercase e.1 = lowercase name
  nodup : h.names.Nodup
  mem_names : ∀ name, name ∈ h.names ↔ ∃ e ∈ items, lowercase e.1 = name
  /-- The names stand in the order in which they first came. -/
  order : h.names.Pairwise fun a b => (spelled items).idxOf a < (spelled items).idxOf b
  size : h.size = (spelled items).toFinset.card
  /-- The entries are the names, each with what it is looked up as. -/
  entries : (h.toList.map fun e => (e.1, .ok e.2)) = h.names.map fun name => (name, h.get name)

theorem get_eq_ok_iff : h.get name = .ok value ↔ h.get? name = some value := by
  rw [get]
  cases h.get? name <;> simp

theorem get_eq_error_iff :
    h.get name = .error f ↔ f = .unknownHeader (lowercase name) ∧ h.get? name = none := by
  rw [get]
  cases h.get? name <;> simp [eq_comm]

theorem contains_text : h.contains (.text name) = (h.get? name).isSome := rfl

theorem get?_ofList_eq_some_iff : (ofList items).get? name = some value ↔
    LastOf items name value := by
  rw [get?, ofList, OrderedMap.get?_ofList_eq_some_iff]
  constructor
  · rintro ⟨front, back, hsplit, hback⟩
    obtain ⟨before, rest, rfl, -, hrest⟩ := List.map_eq_append_iff.1 hsplit
    obtain ⟨⟨given, v⟩, after, rfl, hgiven, rfl⟩ := List.map_eq_cons_iff.1 hrest
    obtain ⟨hname, rfl⟩ := Prod.mk.inj hgiven
    refine ⟨before, given, after, rfl, hname, fun e he => ?_⟩
    exact hback _ (List.mem_map_of_mem he)
  · rintro ⟨before, given, after, rfl, hname, hafter⟩
    refine ⟨before.map fun e => (lowercase e.1, e.2), after.map fun e => (lowercase e.1, e.2),
      ?_, ?_⟩
    · rw [List.map_append, List.map_cons, hname]
    · intro x hx
      obtain ⟨e, he, rfl⟩ := List.mem_map.1 hx
      exact hafter e he

theorem names_ofList (items : List (String × Scalar)) :
    (ofList items).names = (spelled items).eraseDups := by
  rw [names, ofList, OrderedMap.keys_ofList, List.map_map]
  rfl

theorem mem_names_ofList : name ∈ (ofList items).names ↔ ∃ e ∈ items, lowercase e.1 = name := by
  rw [names_ofList, List.mem_eraseDups, spelled, List.mem_map]

theorem lowercase_of_mem_names (hn : name ∈ (ofList items).names) : lowercase name = name := by
  obtain ⟨e, -, rfl⟩ := mem_names_ofList.1 hn
  exact lowercase_lowercase e.1

theorem mapKeys_entries (items : List (String × Scalar)) :
    (ofList items).entries.mapKeys lowercase = (ofList items).entries :=
  OrderedMap.mapKeys_eq_self fun _ hn => lowercase_of_mem_names hn

theorem contains_ofList : (ofList items).contains (.text name) ↔
    ∃ e ∈ items, lowercase e.1 = lowercase name := by
  rw [contains_text, get?, OrderedMap.isSome_get?]
  exact mem_names_ofList

theorem size_eq_card (hn : h.names.Nodup) (hm : ∀ name, name ∈ h.names ↔ name ∈ spelled items) :
    h.size = (spelled items).toFinset.card := by
  have hset : h.names.toFinset = (spelled items).toFinset := by
    ext name
    rw [List.mem_toFinset, List.mem_toFinset, hm]
  rw [← hset, List.toFinset_card_of_nodup hn, names, OrderedMap.keys, List.length_map]
  rfl

theorem get_of_mem_toList {e : String × Scalar} (he : e ∈ (ofList items).toList) :
    (ofList items).get e.1 = .ok e.2 := by
  have hname : e.1 ∈ (ofList items).names := OrderedMap.mem_keys_of_mem he
  rw [get_eq_ok_iff, get?, lowercase_of_mem_names hname]
  exact OrderedMap.get?_eq_some_iff.2 he

theorem tells_ofList (items : List (String × Scalar)) : (ofList items).Tells items where
  get name value := get_eq_ok_iff.trans get?_ofList_eq_some_iff
  found name := by
    rw [contains_text, Option.isSome_iff_exists]
    simp only [get_eq_ok_iff]
  missing name f := by
    rw [get_eq_error_iff, contains_text, Bool.not_eq_true, Option.isSome_eq_false_iff,
      Option.isNone_iff_eq_none]
  contains name := contains_ofList
  nodup := OrderedMap.nodup_keys _
  mem_names name := mem_names_ofList
  order := by
    rw [names_ofList]
    exact List.pairwise_eraseDups _
  size := by
    refine size_eq_card (OrderedMap.nodup_keys _) fun name => ?_
    rw [mem_names_ofList, spelled, List.mem_map]
  entries := by
    have hnames : (ofList items).names = (ofList items).toList.map Prod.fst := rfl
    rw [hnames, List.map_map]
    refine List.map_congr_left fun e he => ?_
    rw [Function.comp_apply, get_of_mem_toList he]

theorem map_canonical_get_eq_iff :
    (g.get name).map canonical = (h.get name).map canonical ↔
      (g.get? name).map canonical = (h.get? name).map canonical := by
  rw [get, get]
  cases g.get? name <;> cases h.get? name <;> simp [Except.map]

/-- A name that is not in lowercase is none of the names, and so it is enough to look up names in
lowercase. -/
theorem agrees_ofList_iff : (ofList items).agrees (ofList others) ↔
    ∀ name, ((ofList items).get name).map canonical = ((ofList others).get name).map canonical := by
  simp only [agrees, OrderedMap.agrees_iff_get?, OrderedMap.get?_map, map_canonical_get_eq_iff]
  constructor
  · intro hall name
    exact hall (lowercase name)
  · intro hall name
    by_cases hl : lowercase name = name
    · rw [← hl]
      exact hall name
    · have hnone : ∀ l, (ofList l).entries.get? name = none := fun l =>
        OrderedMap.get?_eq_none_iff.2 fun hn => hl (lowercase_of_mem_names hn)
      rw [hnone, hnone]

theorem map_canonical_get (hc : ∀ e ∈ items, e.2.canonical = e.2) :
    ((ofList items).get name).map canonical = (ofList items).get name := by
  cases hget : (ofList items).get name with
  | error f => rfl
  | ok v =>
    obtain ⟨before, given, after, rfl, -⟩ := get?_ofList_eq_some_iff.1 (get_eq_ok_iff.1 hget)
    exact congrArg Except.ok (hc (given, v) (by simp))

theorem agrees_ofTexts_iff {texts others : List (String × String)} :
    (ofTexts texts).agrees (ofTexts others) ↔
      ∀ name, (ofTexts texts).get name = (ofTexts others).get name := by
  have hcanonical : ∀ l : List (String × String), ∀ e ∈ l.map fun e => (e.1, Scalar.text e.2),
      e.2.canonical = e.2 := fun _ => List.forall_mem_map.2 fun _ _ => rfl
  rw [ofTexts, ofTexts, agrees_ofList_iff]
  simp only [map_canonical_get (hcanonical _)]

/-- Headers made of the items that there are in headers are these again. -/
theorem ofList_toList (items : List (String × Scalar)) :
    ofList (ofList items).toList = ofList items :=
  congrArg HeaderMap.mk (mapKeys_entries items)

theorem agrees_self (h : HeaderMap) : h.agrees h := OrderedMap.agrees_of_perm (.refl _)

/-- Headers are a mapping of names in any case: they tell of the items what there is to tell, are
equal exactly if every look-up comes to the same, and are made again of their own items. -/
theorem ofList_ignores_case (items : List (String × Scalar)) :
    (ofList items).Tells items ∧
    (∀ others, (ofList items).agrees (ofList others) ↔ ∀ name,
      ((ofList items).get name).map canonical = ((ofList others).get name).map canonical) ∧
    (∀ texts others, (ofTexts texts).agrees (ofTexts others) ↔
      ∀ name, (ofTexts texts).get name = (ofTexts others).get name) ∧
    (ofList (ofList items).toList).agrees (ofList items) ∧
    (ofList (ofList items).toList).toList = (ofList items).toList := by
  refine ⟨tells_ofList items, fun _ => agrees_ofList_iff, fun _ _ => agrees_ofTexts_iff, ?_, ?_⟩
  · rw [ofList_toList]
    exact agrees_self _
  · rw [ofList_toList]

example : (ofTexts [("Ce-Id", "1"), ("Host", "h"), ("CE-ID", "2")]).toList =
    [("ce-id", .text "2"), ("host", .text "h")] := by
  decide

end CloudEvents.HeaderMap
