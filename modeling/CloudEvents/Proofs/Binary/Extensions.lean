import CloudEvents.Proofs.Binary.Headers

/-! The extensions among headers, in the order of their headers. -/
namespace CloudEvents.Binary

open Attribute Text

variable {headers : OrderedMap Scalar} {name : String} {value : Scalar}

/-- The extension in a header, if there is one. -/
def extension? (header : String × Scalar) : Option (String × Scalar) :=
  match Role.of header.1 with
  | .extension name => some (name, header.2)
  | _ => none

theorem extensions_eq (headers : OrderedMap Scalar) :
    extensions headers = .ofList (headers.toList.filterMap extension?) := rfl

theorem roleOf_eq_extension_iff {header : String} : Role.of header = .extension name ↔
    header = headerLead ++ name ∧ name ∉ reserved ∧ name ≠ "" := by
  constructor
  · intro h
    cases hafter : after? headerLead header with
    | none => simp [Role.of, hafter] at h
    | some rest =>
      have hheader := after?_eq_some_iff.1 hafter
      rw [hheader, roleOf_lead] at h
      split at h
      · cases h
      · split at h
        · cases h
        · rename_i hr
          cases h
          exact ⟨hheader, not_or.1 hr⟩
  · rintro ⟨rfl, hr, hne⟩
    have hm : name ∉ headerMapped := fun h => hr (List.mem_append_left _ h)
    rw [roleOf_lead, if_neg hm, if_neg (not_or.2 ⟨hr, hne⟩)]

theorem extension?_eq_some_iff {x y : String × Scalar} : extension? x = some y ↔
    x = (headerLead ++ y.1, y.2) ∧ y.1 ∉ reserved ∧ y.1 ≠ "" := by
  obtain ⟨header, value⟩ := x
  obtain ⟨name, other⟩ := y
  cases hrole : Role.of header with
  | extension found =>
    have hfound := roleOf_eq_extension_iff.1 hrole
    simp only [extension?, hrole, Option.some.injEq, Prod.mk.injEq]
    constructor
    · rintro ⟨rfl, rfl⟩
      exact ⟨⟨hfound.1, rfl⟩, hfound.2⟩
    · rintro ⟨⟨hheader, rfl⟩, -⟩
      exact ⟨String.append_right_inj headerLead |>.1 (hfound.1.symm.trans hheader), rfl⟩
  | _ =>
    simp only [extension?, hrole, reduceCtorEq, false_iff, Prod.mk.injEq]
    rintro ⟨⟨hheader, -⟩, hname⟩
    rw [roleOf_eq_extension_iff.2 ⟨hheader, hname⟩] at hrole
    cases hrole

/-- Headers have distinct names, and so have the extensions in them. -/
theorem toList_extensions (headers : OrderedMap Scalar) :
    (extensions headers).toList = headers.toList.filterMap extension? := by
  apply OrderedMap.toList_ofList
  have hn := headers.nodup
  rw [List.Nodup, List.pairwise_map] at hn ⊢
  rw [List.pairwise_filterMap]
  refine hn.imp fun {x y} hxy a ha b hb hab => hxy ?_
  rw [(extension?_eq_some_iff.1 ha).1, (extension?_eq_some_iff.1 hb).1, hab]

theorem mem_extensions :
    (name, value) ∈ (extensions headers).toList ↔
      (headerLead ++ name, value) ∈ headers.toList ∧ name ∉ reserved ∧ name ≠ "" := by
  rw [toList_extensions, List.mem_filterMap]
  constructor
  · rintro ⟨x, hx, he⟩
    obtain ⟨rfl, hname⟩ := extension?_eq_some_iff.1 he
    exact ⟨hx, hname⟩
  · rintro ⟨hx, hname⟩
    exact ⟨_, hx, extension?_eq_some_iff.2 ⟨rfl, hname⟩⟩

/-- Extensions come in the order of their headers. -/
theorem keys_extensions_sublist (headers : OrderedMap Scalar) :
    ((extensions headers).keys.map (headerLead ++ ·)).Sublist headers.keys := by
  have hnames : ∀ l : List (String × Scalar),
      ((l.filterMap extension?).map fun x => headerLead ++ x.1).Sublist (l.map Prod.fst) := by
    intro l
    induction l with
    | nil => simp
    | cons x l ih =>
      cases hx : extension? x with
      | none =>
        rw [List.filterMap_cons_none hx]
        exact ih.cons _
      | some y =>
        have hname := congrArg Prod.fst (extension?_eq_some_iff.1 hx).1
        rw [List.filterMap_cons_some hx, List.map_cons, List.map_cons, hname]
        exact ih.cons_cons _
  rw [OrderedMap.keys, toList_extensions, List.map_map]
  exact hnames headers.toList

theorem get?_extensions (hr : name ∉ reserved) (hne : name ≠ "") :
    (extensions headers).get? name = headers.get? (headerLead ++ name) := by
  ext value
  rw [OrderedMap.get?_eq_some_iff, OrderedMap.get?_eq_some_iff, mem_extensions]
  exact and_iff_left ⟨hr, hne⟩

theorem extension?_lead (hn : name ∉ reserved) :
    extension? (headerLead ++ name, value) = if name = "" then none else some (name, value) := by
  have hm : name ∉ headerMapped := fun h => hn (List.mem_append_left _ h)
  rw [extension?, roleOf_lead, if_neg hm]
  by_cases he : name = "" <;> simp [hn, he]

theorem extension?_field (hn : name ∈ Event.fieldNames) :
    extension? (headerName headerLead name, value) = none := by
  rcases roleOf_field hn with hr | hr <;> simp [extension?, hr]

end CloudEvents.Binary
