import CloudEvents.Gateway.Listener
import CloudEvents.Proofs.HeaderMap

/-! Headers as variables of a gateway, each of which gives its header back. -/
namespace CloudEvents.Gateway.Environ

open Text

variable {c : Char} {s name header : String} {value : Scalar} {env : Environ}
  {vars headers : List (String × Scalar)}

/-- What a variable has of a header's name. -/
def variableName (header : String) : String :=
  String.ofList ((uppercase header).toList.map fun c => if c = '-' then '_' else c)

/-- The variable that a header is put into: one of its own, or one behind the lead. -/
def variableOf (header : String) : String :=
  if variableName header ∈ ownVariables then variableName header
  else headerLead ++ variableName header

/-- The variable of the length, which has a name of its own. -/
def lengthVariable : String := "CONTENT_LENGTH"

/-- Whether a variable with this name may stand for a header. -/
def standsForHeader (name : String) : Bool :=
  (after? headerLead name).isSome || ownVariables.contains name

/-- Holds of the characters that a variable keeps, apart from their case: those of ASCII, less the
one that a dash is turned into. -/
def PlainChar (c : Char) : Prop := c.toNat < 128 ∧ c ≠ '_'

instance (c : Char) : Decidable (PlainChar c) := by unfold PlainChar; infer_instance

def Plain (header : String) : Prop := ∀ c ∈ header.toList, PlainChar c

instance (header : String) : Decidable (Plain header) :=
  decidable_of_iff (header.toList.all fun c => PlainChar c) (by simp [Plain])

theorem Plain.ascii (h : Plain header) : Ascii header := fun c hc => (h c hc).1

/-- A character as it is written into a variable and read from there, its case apart. -/
def passed (c : Char) : Char :=
  let written := if c.toUpper = '-' then '_' else c.toUpper
  if written = '_' then '-' else written

theorem toLower_passed (h : PlainChar c) :
    (passed c).toNat < 128 ∧ (passed c).toLower = c.toLower := by
  have hall : ∀ n < 128, PlainChar (Char.ofNat n) →
      (passed (Char.ofNat n)).toNat < 128 ∧
        (passed (Char.ofNat n)).toLower = (Char.ofNat n).toLower := by
    decide +kernel
  rw [← Char.ofNat_toNat c] at h ⊢
  exact hall _ (Char.ofNat_toNat c ▸ h.1) h

/-- A plain name is read from a variable as it was, in lowercase. -/
theorem headerName_variableName (h : Plain header) :
    headerName (variableName header) = lowercase header := by
  have hread : String.ofList ((variableName header).toList.map fun c =>
      if c = '_' then '-' else c) = String.ofList (header.toList.map passed) := by
    rw [variableName, String.toList_ofList, toList_uppercase_ascii h.ascii, List.map_map,
      List.map_map]
    rfl
  have hascii : Ascii (String.ofList (header.toList.map passed)) := by
    intro c hc
    rw [String.toList_ofList] at hc
    obtain ⟨d, hd, rfl⟩ := List.mem_map.1 hc
    exact (toLower_passed (h d hd)).1
  rw [headerName, hread, ← String.toList_inj, toList_lowercase_ascii hascii,
    toList_lowercase_ascii h.ascii, String.toList_ofList, List.map_map]
  exact List.map_congr_left fun c hc => (toLower_passed (h c hc)).2

theorem after?_own (h : name ∈ ownVariables) : after? headerLead name = none := by
  have hall : ∀ n ∈ ownVariables, after? headerLead n = none := by decide
  exact hall name h

theorem header?_own (h : name ∈ ownVariables) (hv : allBlank value.render = false) :
    header? name value = some (headerName name, value) := by
  rw [header?, after?_own h]
  simp [h, hv]

theorem header?_lead (rest : String) (value : Scalar) :
    header? (headerLead ++ rest) value = some (headerName rest, value) := by
  rw [header?, after?_append]

/-- A variable gives the header that it was made of. -/
theorem header?_variableOf (h : Plain header)
    (hv : variableName header ∈ ownVariables → allBlank value.render = false) :
    header? (variableOf header) value = some (lowercase header, value) := by
  rw [variableOf]
  split
  · rename_i hown
    rw [header?_own hown (hv hown), headerName_variableName h]
  · rw [header?_lead, headerName_variableName h]

/-- Headers that share a variable have the same name. -/
theorem lowercase_eq_of_variableOf_eq {other : String} (h : Plain header) (ho : Plain other)
    (he : variableOf header = variableOf other) : lowercase header = lowercase other := by
  have hv : allBlank (Scalar.text "x").render = false := by decide
  have hheader := header?_variableOf h fun _ => hv
  rw [he, header?_variableOf ho fun _ => hv, Option.some.injEq, Prod.mk.injEq] at hheader
  exact hheader.1.symm

theorem ownVariables_headerName :
    ownVariables.map headerName = [Attribute.contentType, Attribute.contentLength] := by
  decide +kernel

/-- Only two headers have variables of their own. -/
theorem lowercase_mem_of_own (h : Plain header) (hown : variableName header ∈ ownVariables) :
    lowercase header ∈ [Attribute.contentType, Attribute.contentLength] := by
  rw [← ownVariables_headerName, ← headerName_variableName h]
  exact List.mem_map_of_mem hown

/-- Headers with different names have different variables. -/
theorem nodup_variableOf (hp : ∀ x ∈ headers, Plain x.1)
    (hd : (headers.map fun x => lowercase x.1).Nodup) :
    (headers.map fun x => variableOf x.1).Nodup := by
  refine List.Nodup.map_on ?_ (.of_map _ hd)
  intro x hx y hy hxy
  have hlower := lowercase_eq_of_variableOf_eq (hp x hx) (hp y hy) hxy
  exact List.inj_on_of_nodup_map hd hx hy hlower

theorem header?_eq_none (h : standsForHeader name = false) : header? name value = none := by
  rw [standsForHeader, Bool.or_eq_false_iff] at h
  obtain ⟨hlead, hown⟩ := h
  have hnot : name ∉ ownVariables := by simpa using hown
  rw [Option.isSome_eq_false_iff, Option.isNone_iff_eq_none] at hlead
  rw [header?, hlead]
  simp [hnot]

/-- The headers that variables stand for. -/
def headersOf (vars : List (String × Scalar)) : List (String × Scalar) :=
  vars.filterMap fun v => header? v.1 v.2

/-- Only the variables that may stand for headers count. -/
theorem headersOf_filter (vars : List (String × Scalar)) :
    headersOf (vars.filter fun v => standsForHeader v.1) = headersOf vars := by
  induction vars with
  | nil => rfl
  | cons v r ih =>
    cases hv : standsForHeader v.1 with
    | true =>
      simp only [headersOf, List.filter_cons, hv, if_true, List.filterMap_cons] at ih ⊢
      rw [ih]
    | false =>
      simp only [headersOf, List.filter_cons, hv, Bool.false_eq_true, if_false,
        List.filterMap_cons, header?_eq_none hv] at ih ⊢
      rw [ih]

/-- Variables that were made of headers are read as the headers, by their lowercase names. -/
theorem headersOf_variableOf (hp : ∀ x ∈ headers, Plain x.1)
    (hv : ∀ x ∈ headers, variableName x.1 ∈ ownVariables → allBlank x.2.render = false) :
    headersOf (headers.map fun x => (variableOf x.1, x.2)) =
      headers.map fun x => (lowercase x.1, x.2) := by
  induction headers with
  | nil => rfl
  | cons x r ih =>
    have hx := header?_variableOf (hp x (by simp)) (hv x (by simp))
    have hr := ih (fun y hy => hp y (by simp [hy])) fun y hy => hv y (by simp [hy])
    simp only [headersOf, List.map_cons, List.filterMap_cons, hx] at hr ⊢
    rw [hr]

theorem lowercase_headerName (s : String) : lowercase (headerName s) = headerName s :=
  lowercase_lowercase _

/-- A variable stands for a header when its name lies behind the lead, or is one of its own and the
value is not blank. -/
theorem header?_eq_some_iff {x : String × Scalar} : header? name value = some x ↔
    (∃ rest, name = headerLead ++ rest ∧ x = (headerName rest, value)) ∨
      name ∈ ownVariables ∧ allBlank value.render = false ∧ x = (headerName name, value) := by
  cases hlead : after? headerLead name with
  | some rest =>
    have hname := after?_eq_some_iff.1 hlead
    subst hname
    have hown : headerLead ++ rest ∉ ownVariables := by
      intro hm
      rw [after?_own hm] at hlead
      cases hlead
    simp only [header?_lead, Option.some.injEq, String.append_right_inj, hown, false_and, or_false,
      exists_eq_left']
    exact eq_comm
  | none =>
    have hnot : ∀ rest, name ≠ headerLead ++ rest := by
      intro rest hrest
      rw [after?_eq_some_iff.2 hrest] at hlead
      cases hlead
    simp only [header?, hlead, hnot, false_and, exists_false, false_or]
    by_cases h : name ∈ ownVariables ∧ allBlank value.render = false
    · rw [if_pos (by simpa using h)]
      simp only [h, Option.some.injEq, true_and]
      exact eq_comm
    · rw [if_neg (by simpa using h)]
      simp only [reduceCtorEq, false_iff]
      exact fun hx => h ⟨hx.1, hx.2.1⟩

theorem lowercase_of_header? {x : String × Scalar} (h : header? name value = some x) :
    lowercase x.1 = x.1 := by
  rcases header?_eq_some_iff.1 h with ⟨rest, -, rfl⟩ | ⟨-, -, rfl⟩
  · exact lowercase_headerName rest
  · exact lowercase_headerName name

theorem lowercase_of_mem_headersOf {x : String × Scalar} (h : x ∈ headersOf vars) :
    lowercase x.1 = x.1 := by
  obtain ⟨v, -, hv⟩ := List.mem_filterMap.1 h
  exact lowercase_of_header? hv

theorem entries_headers (env : Environ) :
    env.headers.entries = .ofList (headersOf env.vars.toList) := by
  have hlower : (headersOf env.vars.toList).map (fun x => (lowercase x.1, x.2)) =
      headersOf env.vars.toList := by
    refine (List.map_congr_left fun x hx => ?_).trans (List.map_id _)
    rw [lowercase_of_mem_headersOf hx]
    rfl
  exact congrArg OrderedMap.ofList hlower

/-- The names of headers are lowercase when they come from variables. -/
theorem mapKeys_entries (env : Environ) :
    env.headers.entries.mapKeys lowercase = env.headers.entries := HeaderMap.mapKeys_entries _

end CloudEvents.Gateway.Environ
