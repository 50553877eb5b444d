/-! Maps that keep their entries in the order in which the names first came. -/
namespace CloudEvents

/-- Entries under distinct names, in order. -/
structure OrderedMap (α : Type) where
  toList : List (String × α)
  nodup : (toList.map Prod.fst).Nodup
  deriving DecidableEq

namespace OrderedMap

variable {α β : Type} {name : String} {value : α} {l : List (String × α)}

/-- Gives `name` the value, in its place if it has one and at the end otherwise. -/
def put (name : String) (value : α) : List (String × α) → List (String × α)
  | [] => [(name, value)]
  | e :: r => if e.1 = name then (name, value) :: r else e :: put name value r

theorem put_of_notMem (h : name ∉ l.map Prod.fst) : put name value l = l ++ [(name, value)] := by
  induction l with
  | nil => rfl
  | cons e r ih =>
    simp only [List.map_cons, List.mem_cons, not_or] at h
    simp [put, Ne.symm h.1, ih h.2]

theorem keys_put_of_mem (h : name ∈ l.map Prod.fst) :
    (put name value l).map Prod.fst = l.map Prod.fst := by
  induction l with
  | nil => simp at h
  | cons e r ih =>
    by_cases he : e.1 = name
    · simp [put, he]
    · simp only [List.map_cons, List.mem_cons] at h
      simp [put, he, ih (h.resolve_left (Ne.symm he))]

theorem nodup_put (h : (l.map Prod.fst).Nodup) : ((put name value l).map Prod.fst).Nodup := by
  by_cases hm : name ∈ l.map Prod.fst
  · rwa [keys_put_of_mem hm]
  · rw [put_of_notMem hm, List.map_append]
    exact List.nodup_append.2 ⟨h, by simp, by
      rintro a ha b hb rfl
      simp only [List.map_cons, List.map_nil, List.mem_singleton] at hb
      exact hm (hb ▸ ha)⟩

def empty : OrderedMap α := ⟨[], .nil⟩

instance : EmptyCollection (OrderedMap α) := ⟨empty⟩
instance : Inhabited (OrderedMap α) := ⟨empty⟩

def insert (m : OrderedMap α) (name : String) (value : α) : OrderedMap α :=
  ⟨put name value m.toList, nodup_put m.nodup⟩

/-- Inserts the entries one after another. -/
def insertAll (m : OrderedMap α) (l : List (String × α)) : OrderedMap α :=
  l.foldl (fun m e => m.insert e.1 e.2) m

def ofList (l : List (String × α)) : OrderedMap α := insertAll empty l

def keys (m : OrderedMap α) : List String := m.toList.map Prod.fst

def size (m : OrderedMap α) : Nat := m.toList.length

def get? (m : OrderedMap α) (name : String) : Option α :=
  (m.toList.find? (·.1 == name)).map Prod.snd

def contains (m : OrderedMap α) (name : String) : Bool := (m.get? name).isSome

def erase (m : OrderedMap α) (name : String) : OrderedMap α :=
  ⟨m.toList.filter (·.1 != name), m.nodup.sublist (List.filter_sublist.map _)⟩

def map (f : α → β) (m : OrderedMap α) : OrderedMap β :=
  ⟨m.toList.map fun e => (e.1, f e.2), by
    rw [List.map_map]
    exact m.nodup⟩

/-- Renames every entry; entries that come to share a name are merged as by `insert`. -/
def mapKeys (f : String → String) (m : OrderedMap α) : OrderedMap α :=
  ofList (m.toList.map fun e => (f e.1, e.2))

/-- Whether two maps give every name the same value, in whatever order. -/
def agrees [DecidableEq α] (m n : OrderedMap α) : Bool :=
  m.size == n.size && m.toList.all fun e => n.get? e.1 == some e.2

theorem toList_insert (m : OrderedMap α) :
    (m.insert name value).toList = put name value m.toList := rfl

/-- New names are inserted in the order they have. -/
theorem toList_insertAll {m : OrderedMap α} (h : (m.keys ++ l.map Prod.fst).Nodup) :
    (insertAll m l).toList = m.toList ++ l := by
  induction l generalizing m with
  | nil => simp [insertAll]
  | cons e r ih =>
    have he : e.1 ∉ m.toList.map Prod.fst := by
      rw [List.nodup_append] at h
      exact fun hm => h.2.2 _ hm e.1 (by simp) rfl
    have hs : (m.insert e.1 e.2).toList = m.toList ++ [e] := put_of_notMem he
    have := ih (m := m.insert e.1 e.2) (by simpa [keys, hs] using h)
    simpa [insertAll, hs] using this

theorem toList_ofList (h : (l.map Prod.fst).Nodup) : (ofList l).toList = l :=
  toList_insertAll (m := empty) h

theorem get?_eq_some_iff {m : OrderedMap α} :
    m.get? name = some value ↔ (name, value) ∈ m.toList := by
  obtain ⟨l, hl⟩ := m
  simp only [get?]
  induction l with
  | nil => simp
  | cons e r ih =>
    simp only [List.map_cons, List.nodup_cons] at hl
    by_cases he : e.1 = name
    · subst he
      have : ∀ v, (e.1, v) ∉ r := fun v hv => hl.1 (List.mem_map.2 ⟨_, hv, rfl⟩)
      simp [Prod.ext_iff, this, eq_comm]
    · have : name ≠ e.1 := Ne.symm he
      simp [he, ih hl.2, Prod.ext_iff, this]

theorem get?_insert_self (m : OrderedMap α) : (m.insert name value).get? name = some value := by
  rw [get?_eq_some_iff, toList_insert]
  induction m.toList with
  | nil => simp [put]
  | cons e r ih => by_cases he : e.1 = name <;> simp [put, he, ih]

theorem get?_insert_of_ne (m : OrderedMap α) {other : String} (h : other ≠ name) :
    (m.insert name value).get? other = m.get? other := by
  simp only [get?, toList_insert]
  induction m.toList with
  | nil => simp [put, Ne.symm h]
  | cons e r ih =>
    by_cases he : e.1 = name
    · simp [put, he, Ne.symm h]
    · simp only [put, he, if_false, List.find?_cons]
      split
      · rfl
      · exact ih

end OrderedMap

end CloudEvents
