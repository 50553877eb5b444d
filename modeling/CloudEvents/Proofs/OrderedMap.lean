import CloudEvents.OrderedMap
import Mathlib.Data.List.Induction
import Mathlib.Data.List.Nodup
import Mathlib.Data.List.Perm.Subperm

/-! What lookups and renamings do to ordered maps, and when two maps agree. -/
namespace CloudEvents

theorem List.eraseDups_concat {α : Type} [DecidableEq α] (l : List α) (a : α) :
    (l ++ [a]).eraseDups = if a ∈ l then l.eraseDups else l.eraseDups ++ [a] := by
  rw [List.eraseDups_append, List.removeAll]
  by_cases h : a ∈ l <;> simp [h, List.eraseDups_cons]

/-- Where duplicates are dropped, what is left stands in the order in which it first came. -/
theorem List.pairwise_eraseDups {α : Type} [DecidableEq α] (l : List α) :
    l.eraseDups.Pairwise fun a b => l.idxOf a < l.idxOf b := by
  induction l using List.reverseRecOn with
  | nil => exact .nil
  | append_singleton l c ih =>
    have hfront : l.eraseDups.Pairwise fun a b => (l ++ [c]).idxOf a < (l ++ [c]).idxOf b := by
      refine ih.imp_of_mem fun ha hb hab => ?_
      rwa [List.idxOf_append_of_mem (List.mem_eraseDups.1 ha),
        List.idxOf_append_of_mem (List.mem_eraseDups.1 hb)]
    rw [List.eraseDups_concat]
    split
    next => exact hfront
    next hc =>
      refine List.pairwise_append.2 ⟨hfront, List.pairwise_singleton _ _, fun a ha b hb => ?_⟩
      rw [List.mem_singleton] at hb
      rw [hb, List.idxOf_append_of_mem (List.mem_eraseDups.1 ha), List.idxOf_append_of_notMem hc]
      exact Nat.lt_add_right _ (List.idxOf_lt_length_of_mem (List.mem_eraseDups.1 ha))

theorem List.nodup_eraseDups {α : Type} [DecidableEq α] (l : List α) : l.eraseDups.Nodup := by
  refine (List.pairwise_eraseDups l).imp fun hab => ?_
  rintro rfl
  exact Nat.lt_irrefl _ hab

/-- Of two members of a list one stands before the other. -/
theorem List.exists_split {α : Type} {l : List α} {a b : α} (ha : a ∈ l) (hb : b ∈ l)
    (hne : a ≠ b) : ∃ before between after,
      l = before ++ a :: between ++ b :: after ∨ l = before ++ b :: between ++ a :: after := by
  obtain ⟨front, back, rfl⟩ := List.append_of_mem ha
  rcases List.mem_append.1 hb with hb | hb
  · obtain ⟨before, between, rfl⟩ := List.append_of_mem hb
    exact ⟨before, between, back, Or.inr rfl⟩
  · obtain ⟨between, after, rfl⟩ := List.append_of_mem ((List.mem_cons.1 hb).resolve_left hne.symm)
    exact ⟨front, between, after, Or.inl (by simp)⟩

namespace OrderedMap

variable {α β : Type} {m n : OrderedMap α} {name : String} {value : α} {l : List (String × α)}
  {f : String → String} {p : String → Bool}

theorem toList_inj : m.toList = n.toList ↔ m = n := by
  constructor
  · intro h
    cases m
    cases n
    simp_all
  · rintro rfl
    rfl

theorem nodup_keys (m : OrderedMap α) : m.keys.Nodup := m.nodup

theorem get?_eq_none_iff : m.get? name = none ↔ name ∉ m.keys := by
  simp only [get?, keys, Option.map_eq_none_iff, List.find?_eq_none, List.mem_map, beq_iff_eq]
  constructor
  · rintro h ⟨e, he, rfl⟩
    exact h e he rfl
  · intro h e he hn
    exact h ⟨e, he, hn⟩

theorem isSome_get? : (m.get? name).isSome ↔ name ∈ m.keys := by
  rw [Option.isSome_iff_ne_none, Ne, get?_eq_none_iff, not_not]

theorem mem_keys_of_mem (h : (name, value) ∈ m.toList) : name ∈ m.keys :=
  List.mem_map.2 ⟨_, h, rfl⟩

theorem get?_of_perm (h : m.toList.Perm n.toList) : m.get? name = n.get? name := by
  ext value
  rw [get?_eq_some_iff, get?_eq_some_iff]
  exact h.mem_iff

theorem get?_map (g : α → β) (m : OrderedMap α) (name : String) :
    (m.map g).get? name = (m.get? name).map g := by
  simp only [get?, map, List.find?_map, Option.map_map]
  rfl

@[simp] theorem keys_map (g : α → β) (m : OrderedMap α) : (m.map g).keys = m.keys := by
  simp [keys, map, Function.comp_def]

theorem keys_insert (m : OrderedMap α) :
    (m.insert name value).keys = if name ∈ m.keys then m.keys else m.keys ++ [name] := by
  split
  next h => exact keys_put_of_mem h
  next h =>
    rw [keys, toList_insert, put_of_notMem h, List.map_append]
    rfl

theorem mem_keys_insert {other : String} :
    other ∈ (m.insert name value).keys ↔ other = name ∨ other ∈ m.keys := by
  rw [keys_insert]
  split
  next h =>
    constructor
    · exact .inr
    · rintro (rfl | hm)
      · exact h
      · exact hm
  next => rw [List.mem_append, List.mem_singleton, or_comm]

theorem mem_keys_erase {other : String} :
    other ∈ (m.erase name).keys ↔ other ∈ m.keys ∧ other ≠ name := by
  simp only [keys, erase, List.mem_map, List.mem_filter, bne_iff_ne]
  constructor
  · rintro ⟨x, ⟨hx, hne⟩, rfl⟩
    exact ⟨⟨x, hx, rfl⟩, hne⟩
  · rintro ⟨⟨x, hx, rfl⟩, hne⟩
    exact ⟨x, ⟨hx, hne⟩, rfl⟩

theorem erase_eq_self (h : name ∉ m.keys) : m.erase name = m := by
  rw [← toList_inj]
  refine List.filter_eq_self.2 fun x hx => ?_
  rw [bne_iff_ne]
  rintro rfl
  exact h (List.mem_map.2 ⟨x, hx, rfl⟩)

theorem get?_erase_self (m : OrderedMap α) (name : String) : (m.erase name).get? name = none :=
  get?_eq_none_iff.2 fun h => (mem_keys_erase.1 h).2 rfl

theorem get?_erase_of_ne (m : OrderedMap α) {other : String} (h : other ≠ name) :
    (m.erase name).get? other = m.get? other := by
  ext value
  rw [get?_eq_some_iff, get?_eq_some_iff]
  simp [erase, h]

theorem put_put (other : α) (l : List (String × α)) :
    put name value (put name other l) = put name value l := by
  induction l with
  | nil => simp [put]
  | cons e r ih => by_cases he : e.1 = name <;> simp [put, he, ih]

theorem filter_put_of_neg (h : p name = false) (l : List (String × α)) :
    (put name value l).filter (fun e => p e.1) = l.filter fun e => p e.1 := by
  induction l with
  | nil => simp [put, h]
  | cons e r ih => by_cases he : e.1 = name <;> simp [put, he, h, List.filter_cons, ih]

theorem filter_put_of_pos (h : p name) (l : List (String × α)) :
    (put name value l).filter (fun e => p e.1) = put name value (l.filter fun e => p e.1) := by
  induction l with
  | nil => simp [put, h]
  | cons e r ih =>
    by_cases he : e.1 = name
    · simp [put, he, h]
    · by_cases hp : p e.1 <;> simp [put, he, hp, ih]

/-- The last of two values stays. -/
theorem insert_insert (m : OrderedMap α) (other : α) :
    (m.insert name other).insert name value = m.insert name value :=
  toList_inj.1 (put_put other m.toList)

theorem erase_erase (m : OrderedMap α) (name : String) :
    (m.erase name).erase name = m.erase name :=
  erase_eq_self fun h => (mem_keys_erase.1 h).2 rfl

theorem erase_insert_self (m : OrderedMap α) : (m.insert name value).erase name = m.erase name :=
  toList_inj.1 (filter_put_of_neg (p := (· != name)) (by simp) m.toList)

theorem erase_insert_of_ne (m : OrderedMap α) {other : String} (h : name ≠ other) :
    (m.insert name value).erase other = (m.erase other).insert name value :=
  toList_inj.1 (filter_put_of_pos (p := (· != other)) (by simpa using h) m.toList)

/-- A look-up after many insertions finds the last of them that has the name. -/
theorem get?_insertAll (m : OrderedMap α) (l : List (String × α)) (name : String) :
    (insertAll m l).get? name =
      ((l.reverse.find? (·.1 == name)).map Prod.snd).or (m.get? name) := by
  induction l generalizing m with
  | nil => simp [insertAll]
  | cons e r ih =>
    have hs : insertAll m (e :: r) = insertAll (m.insert e.1 e.2) r := rfl
    rw [hs, ih, List.reverse_cons, List.find?_append]
    cases r.reverse.find? (·.1 == name) with
    | some d => simp
    | none =>
      by_cases he : e.1 = name
      · subst he
        simp [get?_insert_self]
      · simp [he, get?_insert_of_ne m (Ne.symm he)]

theorem get?_ofList (l : List (String × α)) (name : String) :
    (ofList l).get? name = (l.reverse.find? (·.1 == name)).map Prod.snd := by
  have hempty : (empty : OrderedMap α).get? name = none := rfl
  rw [ofList, get?_insertAll, hempty, Option.or_none]

/-- Where a name comes for the last time it has its value. -/
theorem get?_ofList_of_last {before after : List (String × α)} (h : ∀ e ∈ after, e.1 ≠ name) :
    (ofList (before ++ (name, value) :: after)).get? name = some value := by
  have hafter : after.reverse.find? (fun e => e.1 == name) = none := by
    simpa [List.find?_eq_none] using h
  rw [get?_ofList, List.reverse_append, List.reverse_cons, List.append_assoc, List.find?_append,
    hafter]
  simp

theorem get?_ofList_eq_some_iff : (ofList l).get? name = some value ↔
    ∃ before after, l = before ++ (name, value) :: after ∧ ∀ e ∈ after, e.1 ≠ name := by
  constructor
  · intro h
    rw [get?_ofList, Option.map_eq_some_iff] at h
    obtain ⟨e, he, rfl⟩ := h
    obtain ⟨hname, after, before, hsplit, hafter⟩ := List.find?_eq_some_iff_append.1 he
    refine ⟨before.reverse, after.reverse, ?_, fun x hx => ?_⟩
    · rw [← List.reverse_inj, hsplit, ← beq_iff_eq.1 hname]
      simp
    · simpa using hafter x (List.mem_reverse.1 hx)
  · rintro ⟨before, after, rfl, hafter⟩
    exact get?_ofList_of_last hafter

theorem mem_of_get?_ofList (h : (ofList l).get? name = some value) : (name, value) ∈ l := by
  obtain ⟨before, after, rfl, -⟩ := get?_ofList_eq_some_iff.1 h
  exact List.mem_append_right _ List.mem_cons_self

theorem ofList_concat (l : List (String × α)) (e : String × α) :
    ofList (l ++ [e]) = (ofList l).insert e.1 e.2 := by
  simp [ofList, insertAll, List.foldl_append]

/-- A name stands where it comes for the first time. -/
theorem keys_ofList (l : List (String × α)) : (ofList l).keys = (l.map Prod.fst).eraseDups := by
  induction l using List.reverseRecOn with
  | nil => rfl
  | append_singleton l e ih =>
    rw [ofList_concat, keys_insert, ih, List.map_append, List.map_singleton, List.eraseDups_concat]
    simp only [List.mem_eraseDups]

theorem mem_keys_ofList : name ∈ (ofList l).keys ↔ name ∈ l.map Prod.fst := by
  rw [keys_ofList, List.mem_eraseDups]

theorem filterMap_keys (m : OrderedMap α) :
    m.keys.filterMap (fun name => (m.get? name).map (name, ·)) = m.toList := by
  have hself : ∀ e ∈ m.toList, (m.get? e.1).map (e.1, ·) = some e := by
    intro e he
    rw [get?_eq_some_iff.2 he]
    rfl
  rw [keys, List.filterMap_map]
  exact (List.filterMap_congr hself).trans (List.filterMap_some ..)

/-- A map is known from the order of its names and from its look-ups. -/
theorem eq_of_get? (hk : m.keys = n.keys) (h : ∀ name ∈ m.keys, m.get? name = n.get? name) :
    m = n := by
  rw [← toList_inj, ← filterMap_keys m, ← filterMap_keys n, ← hk]
  exact List.filterMap_congr fun name hn => by rw [h name hn]

@[simp] theorem ofList_toList (m : OrderedMap α) : ofList m.toList = m :=
  toList_inj.1 (toList_ofList m.nodup)

theorem insertAll_append (m : OrderedMap α) (k l : List (String × α)) :
    insertAll m (k ++ l) = insertAll (insertAll m k) l := List.foldl_append

theorem put_append_cons {before rest : List (String × α)} {old : α}
    (h : name ∉ before.map Prod.fst) :
    put name value (before ++ (name, old) :: rest) = before ++ (name, value) :: rest := by
  induction before with
  | nil => simp [put]
  | cons e r ih =>
    simp only [List.map_cons, List.mem_cons, not_or] at h
    simp [put, Ne.symm h.1, ih h.2]

/-- A name that comes a second time keeps its place and takes the second value. -/
theorem toList_ofList_repeated {before between after : List (String × α)} {old : α}
    (h : ((before ++ (name, value) :: between ++ after).map Prod.fst).Nodup) :
    (ofList (before ++ (name, old) :: between ++ (name, value) :: after)).toList =
      before ++ (name, value) :: between ++ after := by
  have hkeys : ((before ++ (name, old) :: between).map Prod.fst ++ after.map Prod.fst).Nodup := by
    simpa using h
  have hfirst : (ofList (before ++ (name, old) :: between)).toList =
      before ++ (name, old) :: between := toList_ofList (List.nodup_append.1 hkeys).1
  have hbefore : name ∉ before.map Prod.fst := by
    have hsplit := (List.nodup_append.1 hkeys).1
    rw [List.map_append, List.nodup_append] at hsplit
    exact fun hm => hsplit.2.2 _ hm name (by simp) rfl
  have hsecond : ((ofList (before ++ (name, old) :: between)).insert name value).toList =
      before ++ (name, value) :: between := by
    rw [toList_insert, hfirst, put_append_cons hbefore]
  have hall : ofList (before ++ (name, old) :: between ++ (name, value) :: after) =
      insertAll ((ofList (before ++ (name, old) :: between)).insert name value) after :=
    insertAll_append _ _ _
  rw [hall, toList_insertAll, hsecond]
  rw [keys, hsecond]
  simpa using h

theorem mem_keys_mapKeys : name ∈ (m.mapKeys f).keys ↔ ∃ k ∈ m.keys, f k = name := by
  rw [mapKeys, mem_keys_ofList]
  simp [keys]

theorem toList_mapKeys (h : ∀ a ∈ m.keys, ∀ b ∈ m.keys, f a = f b → a = b) :
    (m.mapKeys f).toList = m.toList.map fun e => (f e.1, e.2) := by
  apply toList_ofList
  have hn := m.nodup_keys.map_on fun a ha b hb => h a ha b hb
  simpa [keys, Function.comp_def] using hn

/-- A renaming that merges two names, and no others, gives the second entry in the place of the
first. -/
theorem toList_mapKeys_merged {before between after : List (String × α)} {x y : String × α}
    (hm : m.toList = before ++ x :: between ++ y :: after) (hxy : f x.1 = f y.1)
    (hf : ∀ a ∈ m.keys, ∀ b ∈ m.keys, a ≠ x.1 → b ≠ x.1 → f a = f b → a = b) :
    (m.mapKeys f).toList =
      (before ++ y :: between ++ after).map fun e => (f e.1, e.2) := by
  have hperm : m.toList.Perm (x :: (before ++ y :: between ++ after)) := by
    rw [hm]
    simp only [List.append_assoc, List.cons_append]
    refine List.perm_middle.trans (.cons _ (.append_left _ ?_))
    exact List.perm_middle
  have hnodup := (hperm.map Prod.fst).nodup_iff.1 m.nodup
  rw [List.map_cons, List.nodup_cons] at hnodup
  have hother : ∀ a ∈ (before ++ y :: between ++ after).map Prod.fst, a ∈ m.keys ∧ a ≠ x.1 := by
    intro a ha
    refine ⟨(hperm.map Prod.fst).mem_iff.2 (List.mem_cons_of_mem _ ha), ?_⟩
    rintro rfl
    exact hnodup.1 ha
  have hrenamed : ((before ++ y :: between ++ after).map fun e => f e.1).Nodup := by
    rw [← Function.comp_def f, ← List.map_map]
    refine hnodup.2.map_on fun a ha b hb hab => ?_
    exact hf a (hother a ha).1 b (hother b hb).1 (hother a ha).2 (hother b hb).2 hab
  have hlist : m.toList.map (fun e => (f e.1, e.2)) =
      before.map (fun e => (f e.1, e.2)) ++ (f y.1, x.2) :: between.map (fun e => (f e.1, e.2)) ++
        (f y.1, y.2) :: after.map fun e => (f e.1, e.2) := by
    simp [hm, hxy]
  rw [mapKeys, hlist, toList_ofList_repeated]
  · simp
  · simpa [Function.comp_def] using hrenamed

theorem mapKeys_eq_self (h : ∀ k ∈ m.keys, f k = k) : m.mapKeys f = m := by
  have hinj : ∀ a ∈ m.keys, ∀ b ∈ m.keys, f a = f b → a = b := by
    intro a ha b hb he
    rw [← h a ha, he, h b hb]
  rw [← toList_inj, toList_mapKeys hinj]
  conv_rhs => rw [← List.map_id m.toList]
  refine List.map_congr_left fun e he => ?_
  rw [h e.1 (mem_keys_of_mem he)]
  rfl

/-- A renaming that merges no names renames every look-up. -/
theorem get?_mapKeys (hf : Function.Injective f) (m : OrderedMap α) (name : String) :
    (m.mapKeys f).get? (f name) = m.get? name := by
  have hl := toList_mapKeys (m := m) (f := f) fun a _ b _ he => hf he
  have hp : (fun e : String × α => f e.1 == f name) = fun e => e.1 == name := by
    funext e
    rw [Bool.eq_iff_iff, beq_iff_eq, beq_iff_eq, hf.eq_iff]
  simp only [get?, hl, List.find?_map, Option.map_map, Function.comp_def, hp]

theorem agrees_of_perm [DecidableEq α] (h : m.toList.Perm n.toList) : m.agrees n := by
  simp only [agrees, Bool.and_eq_true, beq_iff_eq, List.all_eq_true]
  refine ⟨h.length_eq, fun x hx => ?_⟩
  exact get?_eq_some_iff.2 (h.mem_iff.1 hx)

theorem perm_of_agrees [DecidableEq α] (h : m.agrees n) : m.toList.Perm n.toList := by
  simp only [agrees, Bool.and_eq_true, beq_iff_eq, List.all_eq_true] at h
  have hsub : m.toList ⊆ n.toList := fun e he => get?_eq_some_iff.1 (h.2 e he)
  exact (List.subperm_of_subset (.of_map _ m.nodup) hsub).perm_of_length_le (Nat.le_of_eq h.1.symm)

/-- Maps agree exactly if every lookup does. -/
theorem agrees_iff_get? [DecidableEq α] : m.agrees n ↔ ∀ name, m.get? name = n.get? name := by
  constructor
  · intro h name
    exact get?_of_perm (perm_of_agrees h)
  · intro h
    have hm : m.toList.Nodup := .of_map _ m.nodup
    have hn : n.toList.Nodup := .of_map _ n.nodup
    refine agrees_of_perm ((List.perm_ext_iff_of_nodup hm hn).2 fun e => ?_)
    rw [← get?_eq_some_iff, h, get?_eq_some_iff]

theorem map_put (g : α → β) (l : List (String × α)) :
    (put name value l).map (fun e => (e.1, g e.2)) =
      put name (g value) (l.map fun e => (e.1, g e.2)) := by
  induction l with
  | nil => rfl
  | cons e r ih => by_cases he : e.1 = name <;> simp [put, he, ih]

theorem map_insertAll (g : α → β) (m : OrderedMap α) (l : List (String × α)) :
    (insertAll m l).map g = insertAll (m.map g) (l.map fun e => (e.1, g e.2)) := by
  induction l generalizing m with
  | nil => rfl
  | cons e r ih =>
    have hs : (m.insert e.1 e.2).map g = (m.map g).insert e.1 (g e.2) :=
      toList_inj.1 (map_put g m.toList)
    exact (ih (m.insert e.1 e.2)).trans (by rw [hs]; rfl)

/-- Names and values are changed independently of each other. -/
theorem mapKeys_map (g : α → β) (m : OrderedMap α) (f : String → String) :
    (m.map g).mapKeys f = (m.mapKeys f).map g := by
  rw [mapKeys, mapKeys, ofList, ofList, map_insertAll]
  congr 1
  simp [map]

end OrderedMap

end CloudEvents
