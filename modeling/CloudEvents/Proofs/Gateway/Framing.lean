import CloudEvents.Gateway.Listener
import CloudEvents.Proofs.Binary.Stages
import CloudEvents.Proofs.Body.Declared
import CloudEvents.Proofs.Gateway.Variables
import CloudEvents.Proofs.Listener.Answer

/-! How much of the connection is a request's body. -/
namespace CloudEvents.Gateway

open Text

variable {env : Environ} {e : Event} {name : String} {value : Scalar} {context : SpanContext}

namespace Environ

/-- Holds of the variables of headers that are read as the length: those of a name in which a client
has put underscores. -/
def ForgesLength (name : String) : Prop :=
  ∃ rest, name = headerLead ++ rest ∧ headerName rest = Attribute.contentLength

instance (name : String) : Decidable (ForgesLength name) :=
  decidable_of_iff
    (∃ rest ∈ after? headerLead name, headerName rest = Attribute.contentLength) <| by
      simp only [ForgesLength, Option.mem_def, after?_eq_some_iff]

/-- Holds of the requests that have such a variable. -/
def Forged (env : Environ) : Prop := ∃ name ∈ env.vars.keys, ForgesLength name

instance (env : Environ) : Decidable env.Forged :=
  inferInstanceAs (Decidable (∃ name ∈ env.vars.keys, ForgesLength name))

/-- The declared length, if it is not blank. -/
def declaredLength (env : Environ) : Option Scalar :=
  (env.vars.get? lengthVariable).filter fun v => !allBlank v.render

theorem headerName_own (h : name ∈ ownVariables) :
    headerName name = Attribute.contentLength ↔ name = lengthVariable := by
  have hall : ∀ n ∈ ownVariables,
      headerName n = Attribute.contentLength ↔ n = lengthVariable := by
    decide +kernel
  exact hall name h

/-- Of the variables that are read as the length one is its own, and the others forge it. -/
theorem header?_contentLength {v : Scalar} :
    header? name value = some (Attribute.contentLength, v) ↔
      (ForgesLength name ∨ name = lengthVariable ∧ allBlank value.render = false) ∧ v = value := by
  have hown : lengthVariable ∈ ownVariables := by decide
  rw [header?_eq_some_iff]
  constructor
  · rintro (⟨rest, hname, hx⟩ | ⟨hm, hv, hx⟩)
    · obtain ⟨hlength, hvalue⟩ := Prod.mk.inj hx
      exact ⟨Or.inl ⟨rest, hname, hlength.symm⟩, hvalue⟩
    · obtain ⟨hlength, hvalue⟩ := Prod.mk.inj hx
      exact ⟨Or.inr ⟨(headerName_own hm).1 hlength.symm, hv⟩, hvalue⟩
  · rintro ⟨⟨rest, hname, hlength⟩ | ⟨rfl, hv⟩, rfl⟩
    · exact Or.inl ⟨rest, hname, by rw [hlength]⟩
    · exact Or.inr ⟨hown, hv, by rw [(headerName_own hown).2 rfl]⟩

theorem mem_headersOf_contentLength : (Attribute.contentLength, value) ∈ headersOf env.vars.toList ↔
    (∃ name, ForgesLength name ∧ env.vars.get? name = some value) ∨
      env.declaredLength = some value := by
  simp only [headersOf, List.mem_filterMap, Prod.exists, header?_contentLength,
    ← OrderedMap.get?_eq_some_iff, declaredLength, Option.filter_eq_some_iff, Bool.not_eq_true']
  constructor
  · rintro ⟨name, v, hget, hf | ⟨rfl, hv⟩, rfl⟩
    · exact Or.inl ⟨name, hf, hget⟩
    · exact Or.inr ⟨hget, hv⟩
  · rintro (⟨name, hf, hget⟩ | ⟨hget, hv⟩)
    · exact ⟨name, value, hget, Or.inl hf, rfl⟩
    · exact ⟨lengthVariable, value, hget, Or.inr ⟨rfl, hv⟩, rfl⟩

theorem get?_contentLength (env : Environ) : env.headers.get? Attribute.contentLength =
    (OrderedMap.ofList (headersOf env.vars.toList)).get? Attribute.contentLength := by
  rw [HeaderMap.get?, Binary.lowercase_contentLength, entries_headers]

theorem exists_forged : (∃ name value, ForgesLength name ∧ env.vars.get? name = some value) ↔
    env.Forged := by
  simp only [Forged, ← OrderedMap.isSome_get?, Option.isSome_iff_exists, exists_and_left]
  exact exists_congr fun name => and_comm

theorem isSome_contentLength : (env.headers.get? Attribute.contentLength).isSome ↔
    env.Forged ∨ env.declaredLength.isSome := by
  rw [get?_contentLength, OrderedMap.isSome_get?, OrderedMap.mem_keys_ofList, List.mem_map,
    ← exists_forged, Option.isSome_iff_exists]
  constructor
  · rintro ⟨⟨n, value⟩, hm, rfl⟩
    rcases mem_headersOf_contentLength.1 hm with ⟨name, hf, hget⟩ | hd
    · exact Or.inl ⟨name, value, hf, hget⟩
    · exact Or.inr ⟨value, hd⟩
  · rintro (⟨name, value, hf, hget⟩ | ⟨value, hd⟩)
    · exact ⟨_, mem_headersOf_contentLength.2 (Or.inl ⟨name, hf, hget⟩), rfl⟩
    · exact ⟨_, mem_headersOf_contentLength.2 (Or.inr hd), rfl⟩

/-- Without a forged length the declared one is the length. -/
theorem get?_contentLength_of_not_forged (hf : ¬ env.Forged) :
    env.headers.get? Attribute.contentLength = env.declaredLength := by
  have hsome : ∀ v, env.headers.get? Attribute.contentLength = some v →
      env.declaredLength = some v := by
    intro v hv
    rw [get?_contentLength] at hv
    rcases mem_headersOf_contentLength.1 (OrderedMap.mem_of_get?_ofList hv) with
      ⟨name, hn, hget⟩ | hd
    · exact absurd (exists_forged.1 ⟨name, v, hn, hget⟩) hf
    · exact hd
  cases hlength : env.headers.get? Attribute.contentLength with
  | some v => exact (hsome v hlength).symm
  -- a declared length would be a header, if only under the value of another
  | none =>
    have hnot : ¬ (env.Forged ∨ env.declaredLength.isSome) := by
      rw [← isSome_contentLength, hlength]
      simp
    rw [not_or, Option.not_isSome_iff_eq_none] at hnot
    exact hnot.2.symm

/-- The connection is the body when there is a length, be it a forged one, or when it ends by
itself. -/
theorem sharesInput_iff : env.sharesInput ↔
    env.input.isSome ∧ (env.Forged ∨ env.declaredLength.isSome ∨ env.inputTerminated) := by
  rw [sharesInput, Bool.and_eq_true, Bool.or_eq_true, isSome_contentLength, or_assoc]

theorem header_contentLength (env : Environ) :
    Binary.header (env.request.headers.mapKeys lowercase) Attribute.contentLength =
      (env.headers.get? Attribute.contentLength).getD .null := by
  rw [request, mapKeys_entries, Binary.header, HeaderMap.get?, Binary.lowercase_contentLength]

end Environ

open Binary

/-- Without a length, nothing is read of an empty body. -/
theorem data_eq_none_of_decode {request : OrderedMap Scalar}
    (hl : header (request.mapKeys lowercase) Attribute.contentLength = .null)
    (h : (decode request (.ofBytes [])).result = .ok e) : e.data = none := by
  obtain ⟨-, t, bytes, rest, -, hread, hbuild⟩ := result_decode_eq_ok_iff.1 h
  obtain ⟨left, hempty⟩ := Body.run_read_null_nil
  rw [hl, hempty] at hread
  cases hread
  exact (Except.ok.inj (Draft.build_eq_ok_iff.1 hbuild).data).symm

/-- A request that declares no length has the connection as its body exactly when a length is
forged. Unless one is, such a request leaves the connection alone and has no payload, and one that
declares a length is read by it. -/
theorem framed_by_declaredLength (env : Environ) :
    (env.declaredLength = none → env.inputTerminated = false →
      (env.sharesInput ↔ env.input.isSome ∧ env.Forged)) ∧
    (¬ env.Forged → env.declaredLength = none → env.inputTerminated = false →
      ∀ (l : Listener) context, inputAfter env (handle l context env) = env.input ∧
        ∀ e, (handle l context env).handled = some e → e.data = none) ∧
    (¬ env.Forged → ∀ v, env.declaredLength = some v →
      header (env.request.headers.mapKeys lowercase) Attribute.contentLength = v) := by
  have hshares : env.declaredLength = none → env.inputTerminated = false →
      (env.sharesInput ↔ env.input.isSome ∧ env.Forged) := by
    intro hnone hopen
    simp [Environ.sharesInput_iff, hnone, hopen]
  refine ⟨hshares, ?_, ?_⟩
  · intro hf hnone hopen l context
    have hown : env.sharesInput = false := by
      rw [← Bool.not_eq_true, hshares hnone hopen]
      exact fun h => hf h.2
    refine ⟨by rw [inputAfter, hown]; rfl, fun e he => ?_⟩
    have hbody : env.request.body = .ofBytes [] := by
      rw [Environ.request, hown]
      rfl
    have hlength : header (env.request.headers.mapKeys lowercase) Attribute.contentLength =
        .null := by
      rw [Environ.header_contentLength, Environ.get?_contentLength_of_not_forged hf, hnone]
      rfl
    have hdecode := Listener.decode_of_accepts (Listener.accepts_of_handled he)
    rw [hbody] at hdecode
    exact data_eq_none_of_decode hlength hdecode
  · intro hf v hv
    rw [Environ.header_contentLength, Environ.get?_contentLength_of_not_forged hf, hv]
    rfl

/-- A post with an order, and with two bytes that wait on the connection. -/
def orderEnviron (extra : List (String × Scalar)) : Environ where
  vars := .ofList <| [(Environ.methodVariable, .text "POST"), ("HTTP_CE_ID", .text "abc-1"),
    ("HTTP_CE_SOURCE", .text "/orders"), ("HTTP_CE_SPECVERSION", .text "1.0"),
    ("HTTP_CE_TYPE", .text "com.example.order.created")] ++ extra
  input := some (.ofBytes [104, 105])

/-- A listener that is told nothing and does nothing. -/
def idleListener : Listener :=
  ⟨⟨Settings.defaultMethods, false, false, Settings.defaultTracer⟩, fun _ _ => pure ()⟩

theorem framed_order :
    (let env := orderEnviron [(Environ.lengthVariable, .text " ")]
    ¬ env.Forged ∧ inputAfter env (handle idleListener .absent env) = env.input) ∧
    let env := orderEnviron [(Environ.lengthVariable, .text "2")]
    ¬ env.Forged ∧
      header (env.request.headers.mapKeys lowercase) Attribute.contentLength = .text "2" := by
  have hblank : ¬ (orderEnviron [(Environ.lengthVariable, .text " ")]).Forged := by decide +kernel
  have hlength : ¬ (orderEnviron [(Environ.lengthVariable, .text "2")]).Forged := by decide +kernel
  refine ⟨⟨hblank, ?_⟩, hlength, ?_⟩
  · exact ((framed_by_declaredLength _).2.1 hblank rfl rfl idleListener .absent).1
  · exact (framed_by_declaredLength _).2.2 hlength _ rfl

/-- A header whose name has an underscore takes the place of the length that was not declared. The
connection is read, and what is read is the payload. -/
theorem framed_otherwise_order :
    let env := orderEnviron [("HTTP_CONTENT_LENGTH", .text "2")]
    env.vars.get? Environ.lengthVariable = none ∧ env.inputTerminated = false ∧
      inputAfter env (handle idleListener .absent env) ≠ env.input ∧
      (handle idleListener .absent env).handled.bind Event.data = some [104, 105] := by
  decide +kernel

end CloudEvents.Gateway
