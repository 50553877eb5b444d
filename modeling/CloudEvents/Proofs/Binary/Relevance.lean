import CloudEvents.Proofs.Binary.Forwarding

/-! The headers that an event is read from; the others make no difference. -/
namespace CloudEvents

theorem Event.same_of_perm {e : Event} {x : OrderedMap String}
    (h : x.toList.Perm e.extensions.toList) : ({ e with extensions := x } : Event).same e := by
  have hcore : ({ e with extensions := x } : Event).core = e.core := rfl
  simp [same, hcore, OrderedMap.agrees_of_perm h]

namespace Binary

open Attribute Text

variable {m n : OrderedMap Scalar} {body : BodyStream} {e : Event} {moment : Option Timestamp}
  {bytes : List UInt8} {name : String}

/-- Holds of the names of headers that reading an event looks at. -/
def Relevant (name : String) : Prop := Forwarded name ∨ name = contentLength

/-- Holds of headers that agree in what reading an event looks at. -/
def Alike (m n : OrderedMap Scalar) : Prop := ∀ name, Relevant name → m.get? name = n.get? name

/-- The same event, but for the order of its extensions, or the same fault. -/
inductive SameResult : Except Fault Event → Except Fault Event → Prop
  | event {d e : Event} (hcore : d = { e with extensions := d.extensions })
      (hext : d.extensions.toList.Perm e.extensions.toList) : SameResult (.ok d) (.ok e)
  | fault {f : Fault} : SameResult (.error f) (.error f)

theorem relevant_contentType : Relevant contentType := Or.inl (Or.inl rfl)

theorem relevant_contentLength : Relevant contentLength := Or.inr rfl

theorem relevant_lead_iff :
    Relevant (headerLead ++ name) ↔ name ∉ ["", data, dataContentType] := by
  simp only [List.mem_cons, List.not_mem_nil, or_false, not_or]
  constructor
  · rintro ((h | ⟨other, h, hn⟩) | h)
    · exact absurd h (headLead_append_ne name).1
    · rwa [← String.append_right_inj headerLead |>.1 h] at hn
    · exact absurd h (headLead_append_ne name).2
  · intro hn
    exact Or.inl (Or.inr ⟨name, rfl, hn⟩)

theorem relevant_iff : Relevant name ↔ name = contentType ∨ name = contentLength ∨
    ∃ a ∈ after? headerLead name, a ∉ ["", data, dataContentType] := by
  constructor
  · rintro ((rfl | ⟨a, rfl, ha⟩) | rfl)
    · exact Or.inl rfl
    · exact Or.inr (Or.inr ⟨a, after?_append headerLead a, by simpa using ha⟩)
    · exact Or.inr (Or.inl rfl)
  · rintro (rfl | rfl | ⟨a, hafter, ha⟩)
    · exact relevant_contentType
    · exact relevant_contentLength
    · rw [after?_eq_some_iff.1 hafter]
      exact relevant_lead_iff.2 ha

instance : DecidablePred Relevant := fun _ => decidable_of_iff _ relevant_iff.symm

namespace Alike

theorem header (h : Alike m n) (hr : Relevant name) : header m name = header n name := by
  rw [Binary.header, Binary.header, h name hr]

theorem carried (h : Alike m n) (hn : name ∉ ["", data, dataContentType]) :
    carried m name = carried n name := h.header (relevant_lead_iff.2 hn)

theorem draft (h : Alike m n) :
    draft m moment bytes = { draft n moment bytes with extensions := extensions m } := by
  have hcarried : ∀ name ∈ headerMapped, Binary.carried m name = Binary.carried n name := by
    intro name hn
    have hall : ∀ a ∈ headerMapped, a ∉ ["", data, dataContentType] := by decide
    exact h.carried (hall name hn)
  rw [Binary.draft, h.header relevant_contentType, hcarried id (by decide),
    hcarried source (by decide), hcarried type (by decide), hcarried specVersion (by decide),
    hcarried dataSchema (by decide), hcarried subject (by decide)]
  rfl

theorem extensions_perm (h : Alike m n) :
    (extensions m).toList.Perm (extensions n).toList := by
  refine (List.perm_ext_iff_of_nodup (.of_map _ (extensions m).nodup)
    (.of_map _ (extensions n).nodup)).2 fun x => ?_
  rw [mem_extensions, mem_extensions, ← OrderedMap.get?_eq_some_iff, ← OrderedMap.get?_eq_some_iff]
  refine and_congr_left fun hname => ?_
  have hrelevant : Relevant (headerLead ++ x.1) := by
    refine relevant_lead_iff.2 fun hx => ?_
    have hall : ∀ a ∈ ["", data, dataContentType], a ∈ reserved ∨ a = "" := by decide
    exact not_or.2 hname (hall x.1 hx)
  rw [h _ hrelevant]

/-- The extensions have no part in whether an event is made, so that their order has none either. -/
theorem sameResult_build (h : Alike m n) (hm : ∀ name ∈ m.keys, lowercase name = name)
    (hn : ∀ name ∈ n.keys, lowercase name = name) :
    SameResult (Binary.draft m moment bytes).build (Binary.draft n moment bytes).build := by
  rw [build_draft_eq_map hm, build_draft_eq_map hn, h.draft]
  cases Draft.build { Binary.draft n moment bytes with extensions := .empty } with
  | error f => exact .fault
  | ok core => exact .event rfl (h.extensions_perm.map _)

/-- Requests that agree in what is looked at are read alike. -/
theorem decode (h : Alike (m.mapKeys lowercase) (n.mapKeys lowercase)) (body : BodyStream) :
    SameResult (decode m body).result (decode n body).result ∧
      (Binary.decode m body).body = (Binary.decode n body).body := by
  have htime : Relevant (headerLead ++ time) := relevant_lead_iff.2 (by decide)
  simp only [Binary.decode, decodeBody, h.header relevant_contentType,
    h.header relevant_contentLength, h _ htime]
  cases checkMode (Binary.header (n.mapKeys lowercase) contentType) with
  | error f => exact ⟨.fault, rfl⟩
  | ok _ =>
    cases Draft.optional readTime ((n.mapKeys lowercase).get? (headerLead ++ time)) with
    | error f => exact ⟨.fault, rfl⟩
    | ok moment =>
      cases (Body.read (Binary.header (n.mapKeys lowercase) contentLength)).run body with
      | error f rest => exact ⟨.fault, rfl⟩
      | ok bytes rest =>
        exact ⟨h.sameResult_build (fun _ hk => lowercase_of_mem_mapKeys hk)
          fun _ hk => lowercase_of_mem_mapKeys hk, rfl⟩

end Alike

theorem SameResult.same {d : Event} (h : SameResult (.ok d) (.ok e)) : d.same e := by
  cases h with
  | event hcore hext =>
    rw [hcore]
    exact Event.same_of_perm hext

/-- The headers with their names in lowercase, those included that come to share one. -/
def lowered (m : OrderedMap Scalar) : List (String × Scalar) :=
  m.toList.map fun x => (lowercase x.1, x.2)

theorem mem_mapKeys_lowercase (h : ((lowered m).map Prod.fst).Nodup) {x : String × Scalar} :
    x ∈ (m.mapKeys lowercase).toList ↔ x ∈ lowered m := by
  rw [← OrderedMap.toList_ofList h]
  rfl

/-- Reading an event depends on nothing but the relevant headers as a set, their names being in
lowercase. -/
theorem decode_of_relevant (hm : ((lowered m).map Prod.fst).Nodup)
    (hn : ((lowered n).map Prod.fst).Nodup)
    (hmn : ∀ x, Relevant x.1 → (x ∈ lowered m ↔ x ∈ lowered n)) (body : BodyStream) :
    SameResult (decode m body).result (decode n body).result ∧
      (∀ d e, (decode m body).result = .ok d → (decode n body).result = .ok e → d.same e) ∧
      (decode m body).body = (decode n body).body := by
  have halike : Alike (m.mapKeys lowercase) (n.mapKeys lowercase) := by
    intro name hr
    ext value
    rw [OrderedMap.get?_eq_some_iff, OrderedMap.get?_eq_some_iff, mem_mapKeys_lowercase hm,
      mem_mapKeys_lowercase hn]
    exact hmn (name, value) hr
  obtain ⟨hresult, hbody⟩ := halike.decode body
  refine ⟨hresult, fun d e hd he => ?_, hbody⟩
  rw [hd, he] at hresult
  exact hresult.same

theorem lowered_ascii (h : ∀ name ∈ m.keys, Ascii name) :
    lowered m = m.toList.map fun x => (String.ofList (x.1.toList.map Char.toLower), x.2) := by
  refine List.map_congr_left fun x hx => ?_
  rw [← toList_lowercase_ascii (h x.1 (OrderedMap.mem_keys_of_mem hx)), String.ofList_toList]

/-- An order whose headers stand in the order of their names. -/
def sortedRequest : OrderedMap Scalar := .ofList [
  ("ce-a", .text "1"), ("ce-b", .text "2"), ("ce-id", .text "abc-1"),
  ("ce-source", .text "/orders"), ("ce-specversion", .text "1.0"), ("ce-type", .text "order"),
  ("content-length", .text "2"), ("content-type", .text "a/b")]

/-- The order with its headers in another order and letter case, and with some that are of no
event. -/
def shuffledRequest : OrderedMap Scalar := .ofList [
  ("CE-B", .text "2"), ("Host", .text "orders.example"), ("Content-Type", .text "a/b"),
  ("Ce-Type", .text "order"), ("ce-data", .text "none"), ("CE-ID", .text "abc-1"),
  ("ce-source", .text "/orders"), ("ce-", .text "lost"), ("Content-Length", .text "2"),
  ("ce-SpecVersion", .text "1.0"), ("Ce-A", .text "1")]

theorem decode_of_relevant_shuffled :
    ((lowered sortedRequest).map Prod.fst).Nodup ∧ ((lowered shuffledRequest).map Prod.fst).Nodup ∧
    (∀ x, Relevant x.1 → (x ∈ lowered sortedRequest ↔ x ∈ lowered shuffledRequest)) ∧
    SameResult (decode sortedRequest (.ofBytes [104, 105])).result
      (decode shuffledRequest (.ofBytes [104, 105])).result ∧
    (decode sortedRequest (.ofBytes [104, 105])).result.map (·.extensions.keys) =
      .ok ["a", "b"] ∧
    (decode sortedRequest (.ofBytes [104, 105])).body =
      (decode shuffledRequest (.ofBytes [104, 105])).body := by
  have hnames : ∀ r ∈ [sortedRequest.keys, shuffledRequest.keys],
      r.all fun name => name.toList.all fun c => c.toNat < 128 := by
    decide
  simp only [List.mem_cons, List.not_mem_nil, or_false, forall_eq_or_imp, forall_eq,
    List.all_eq_true, decide_eq_true_eq] at hnames
  have hfirst := lowered_ascii hnames.1
  have hsecond := lowered_ascii hnames.2
  have hsorted : ((lowered sortedRequest).map Prod.fst).Nodup := by
    rw [hfirst]
    decide +kernel
  have hshuffled : ((lowered shuffledRequest).map Prod.fst).Nodup := by
    rw [hsecond]
    decide +kernel
  have hforth : ∀ x ∈ lowered sortedRequest, Relevant x.1 → x ∈ lowered shuffledRequest := by
    rw [hfirst, hsecond]
    decide +kernel
  have hback : ∀ x ∈ lowered shuffledRequest, Relevant x.1 → x ∈ lowered sortedRequest := by
    rw [hfirst, hsecond]
    decide +kernel
  have hmn : ∀ x, Relevant x.1 → (x ∈ lowered sortedRequest ↔ x ∈ lowered shuffledRequest) :=
    fun x hr => ⟨fun hx => hforth x hx hr, fun hx => hback x hx hr⟩
  obtain ⟨hresult, -, hbody⟩ := decode_of_relevant hsorted hshuffled hmn (.ofBytes [104, 105])
  have hlower : sortedRequest.mapKeys lowercase = sortedRequest := by
    have hall : ∀ name ∈ sortedRequest.keys, isAsciiLower name := by decide
    exact OrderedMap.mapKeys_eq_self fun name hn => lowercase_of_isAsciiLower (hall name hn)
  have hread : (decode sortedRequest (.ofBytes [104, 105])).result.map (·.extensions.keys) =
      .ok ["a", "b"] := by
    rw [result_decode, hlower]
    decide +kernel
  exact ⟨hsorted, hshuffled, hmn, hresult, hread, hbody⟩

end Binary

end CloudEvents
