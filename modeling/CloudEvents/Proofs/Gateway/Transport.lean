import CloudEvents.Proofs.Gateway.Variables

/-! Headers put into variables, among others, and read from them again. -/
namespace CloudEvents

open Text

theorem OrderedMap.nodup_of_partition {α : Type} {l : List (String × α)} (p : String → Bool)
    (hin : ((l.filter fun e => p e.1).map Prod.fst).Nodup)
    (hout : ((l.filter fun e => !p e.1).map Prod.fst).Nodup) : (l.map Prod.fst).Nodup := by
  have hperm := (List.filter_append_perm (fun e => p e.1) l).map Prod.fst
  rw [← hperm.nodup_iff, List.map_append, List.nodup_append]
  refine ⟨hin, hout, ?_⟩
  rintro a ha b hb rfl
  obtain ⟨x, hx, hxa⟩ := List.mem_map.1 ha
  obtain ⟨y, hy, hya⟩ := List.mem_map.1 hb
  have hpos := (List.mem_filter.1 hx).2
  have hneg := (List.mem_filter.1 hy).2
  rw [hxa] at hpos
  rw [hya, hpos] at hneg
  cases hneg

/-- Reading an event looks at the headers under their lowercase names, and at nothing else. -/
theorem Binary.decode_congr {m n : OrderedMap Scalar}
    (h : m.mapKeys lowercase = n.mapKeys lowercase) (body : BodyStream) :
    decode m body = decode n body := by
  simp only [decode, h]

namespace Gateway.Environ

variable {vars headers : List (String × Scalar)}

/-- Holds of headers that variables can carry: their names are plain and differ in more than letter
case, and those with variables of their own are not blank. -/
structure Portable (headers : List (String × Scalar)) : Prop where
  plain : ∀ x ∈ headers, Plain x.1
  distinct : (headers.map fun x => lowercase x.1).Nodup
  notBlank : ∀ x ∈ headers, lowercase x.1 ∈ [Attribute.contentType, Attribute.contentLength] →
    allBlank x.2.render = false

/-- Holds of variables in which headers stand in their order, each in the variable for its name.
Before, between and behind them there may be any variables that stand for no header. -/
structure Carries (vars headers : List (String × Scalar)) : Prop where
  headers : (vars.filter fun v => standsForHeader v.1) = headers.map fun x => (variableOf x.1, x.2)
  others : ((vars.filter fun v => !standsForHeader v.1).map Prod.fst).Nodup

namespace Portable

theorem nodup (h : Portable headers) : (headers.map Prod.fst).Nodup := by
  have hdistinct := h.distinct
  rw [← Function.comp_def lowercase, ← List.map_map] at hdistinct
  exact .of_map _ hdistinct

/-- No header is put where another one is. -/
theorem nodup_vars (h : Portable headers) (hv : Carries vars headers) :
    (vars.map Prod.fst).Nodup := by
  refine OrderedMap.nodup_of_partition standsForHeader ?_ hv.others
  simp only [hv.headers, List.map_map, Function.comp_def]
  exact nodup_variableOf h.plain h.distinct

theorem headersOf_eq (h : Portable headers) (hv : Carries vars headers) :
    headersOf vars = headers.map fun x => (lowercase x.1, x.2) := by
  rw [← headersOf_filter, hv.headers]
  refine headersOf_variableOf h.plain fun x hx hown => ?_
  exact h.notBlank x hx (lowercase_mem_of_own (h.plain x hx) hown)

end Portable

/-- Headers are read from their variables as they are, and so is an event that they are of. -/
theorem headers_of_carries (h : Portable headers) (hv : Carries vars headers)
    (input : Option BodyStream) :
    let env : Environ := ⟨.ofList vars, input⟩
    env.vars.toList = vars ∧
    env.headers.toList = headers.map (fun x => (lowercase x.1, x.2)) ∧
    ∀ body, Binary.decode env.headers.entries body = Binary.decode (.ofList headers) body := by
  intro env
  have hvars : env.vars.toList = vars := OrderedMap.toList_ofList (h.nodup_vars hv)
  have hentries : env.headers.entries =
      .ofList (headers.map fun x => (lowercase x.1, x.2)) := by
    rw [entries_headers, hvars, h.headersOf_eq hv]
  have hnodup : ((headers.map fun x => (lowercase x.1, x.2)).map Prod.fst).Nodup := by
    simp only [List.map_map, Function.comp_def]
    exact h.distinct
  refine ⟨hvars, ?_, fun body => Binary.decode_congr ?_ body⟩
  · rw [HeaderMap.toList, hentries, OrderedMap.toList_ofList hnodup]
  · rw [mapKeys_entries, hentries, OrderedMap.mapKeys, OrderedMap.toList_ofList h.nodup]

/-- Headers of an order, in the letter cases that clients choose. -/
def mixedHeaders : List (String × Scalar) := [
  ("Content-Type", .text "text/plain"), ("ce-ID", .text "abc-1"), ("X-Request-Id", .text "7"),
  ("content-length", .text "2")]

/-- The variables of these headers, among those that a server sets. -/
def mixedVars : List (String × Scalar) := [
  ("SERVER_NAME", .text "shop"), ("CONTENT_TYPE", .text "text/plain"),
  ("HTTP_CE_ID", .text "abc-1"), ("REQUEST_METHOD", .text "POST"),
  ("HTTP_X_REQUEST_ID", .text "7"), ("CONTENT_LENGTH", .text "2"), ("HTTPS", .text "on")]

def mixedEnviron : Environ := ⟨.ofList mixedVars, none⟩

theorem headers_of_carries_mixed :
    Portable mixedHeaders ∧ Carries mixedVars mixedHeaders ∧
    mixedEnviron.headers.toList = [
      ("content-type", .text "text/plain"), ("ce-id", .text "abc-1"), ("x-request-id", .text "7"),
      ("content-length", .text "2")] ∧
    Binary.decode mixedEnviron.headers.entries (.ofBytes [104, 105]) =
      Binary.decode (.ofList mixedHeaders) (.ofBytes [104, 105]) := by
  have hportable : Portable mixedHeaders := by
    constructor <;> decide +kernel
  have hcarries : Carries mixedVars mixedHeaders := by
    constructor <;> decide +kernel
  obtain ⟨-, hheaders, hdecode⟩ := headers_of_carries hportable hcarries none
  refine ⟨hportable, hcarries, hheaders.trans ?_, hdecode _⟩
  decide +kernel

end Gateway.Environ

end CloudEvents
