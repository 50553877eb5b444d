import CloudEvents.Binary.Encode
import CloudEvents.Proofs.Binary.Headers
import CloudEvents.Response.Buffered

/-! Events written to a buffered response, which never fails. -/
namespace CloudEvents.Binary

open Attribute Text

variable {e : Event} {name : String} {value : Scalar} {r : BufferedResponse}

/-- What a fresh response has collected once an event is written to it. -/
def rendered (e : Event) : BufferedResponse :=
  match e.data with
  | none =>
    { status := Status.noContent
      headers := (toHeaders e headerLead).toList }
  | some bytes =>
    { status := Status.ok
      headers := (toHeaders e headerLead).toList ++
        [(contentLength, .text (signed bytes.length))]
      body := bytes
      sinks := [{ bytes, closed := true }] }

theorem run_addHeaders (l : List (String × Scalar)) (r : BufferedResponse) :
    (forM l fun header => ResponseWriter.addHeader header.1 header.2 :
      EStateM Fault BufferedResponse PUnit).run r =
      .ok () { r with headers := r.headers ++ l } := by
  induction l generalizing r with
  | nil => simp
  | cons header l ih =>
    rw [List.forM_cons, EStateM.run_bind, BufferedResponse.run_addHeader]
    simp only [ih, List.append_assoc, List.singleton_append]

/-- A stream that is opened, written to and closed adds its bytes to the body. -/
theorem run_withBody (bytes : List UInt8) (hr : r.sinks = []) :
    (withBody fun stream => do
      let _ ← ResponseWriter.writeBody stream bytes
      ResponseWriter.flushBody stream : EStateM Fault BufferedResponse Unit).run r =
      .ok () { r with
        body := r.body ++ bytes
        sinks := [{ bytes, closed := true }] } := by
  obtain ⟨status, headers, body, sinks⟩ := r
  cases hr
  rfl

theorem run_write (e : Event) : (write e : EStateM Fault BufferedResponse Unit).run {} =
    .ok () (rendered e) := by
  rw [write, EStateM.run_bind, run_addHeaders, rendered]
  cases e.data with
  | none => rfl
  | some bytes =>
    simp only [writeData, EStateM.run_bind, BufferedResponse.run_addHeader,
      BufferedResponse.run_setStatus]
    rw [run_withBody bytes rfl]
    rfl

theorem run_encode (e : Event) : (encode e : EStateM Fault BufferedResponse Unit).run {} =
    .ok () (rendered e) := by
  rw [encode, EStateM.run_adaptExcept, run_write]

/-- The headers of a written event as a mapping. -/
def sent (e : Event) : OrderedMap Scalar := .ofList (rendered e).headers

/-- The declared length of a written event, or the null. -/
def lengthValue (e : Event) : Scalar :=
  (e.data.map fun bytes => .text (signed bytes.length)).getD .null

theorem sent_of_none (h : e.data = none) : sent e = toHeaders e headerLead := by
  simp [sent, rendered, h]

theorem sent_of_some {bytes : List UInt8} (h : e.data = some bytes) :
    sent e = (toHeaders e headerLead).insert contentLength (.text (signed bytes.length)) := by
  have hmap := OrderedMap.ofList_toList (toHeaders e headerLead)
  simp only [OrderedMap.ofList, OrderedMap.insertAll] at hmap
  simp only [sent, rendered, h, OrderedMap.ofList, OrderedMap.insertAll, List.foldl_append, hmap,
    List.foldl_cons, List.foldl_nil]

theorem toList_sent (e : Event) : (sent e).toList =
    (toHeaders e headerLead).toList ++ Event.entry contentLength (lengthValue e) := by
  cases h : e.data with
  | none => simp [sent_of_none h, lengthValue, h, Event.entry]
  | some bytes =>
    rw [sent_of_some h, OrderedMap.toList_insert, OrderedMap.put_of_notMem (contentLength_notMem e)]
    simp [lengthValue, h, Event.entry]

theorem get?_sent_attribute (e : Event) (name : String) :
    (sent e).get? (headerName headerLead name) = e.attributes.get? name := by
  cases h : e.data with
  | none => rw [sent_of_none h, get?_toHeaders]
  | some bytes =>
    rw [sent_of_some h, OrderedMap.get?_insert_of_ne _ (headerName_ne_contentLength name),
      get?_toHeaders]

theorem header_sent_contentLength (e : Event) : header (sent e) contentLength = lengthValue e := by
  cases h : e.data with
  | none =>
    rw [sent_of_none h, header, OrderedMap.get?_eq_none_iff.2 (contentLength_notMem e)]
    simp [lengthValue, h]
  | some bytes =>
    rw [sent_of_some h, header, OrderedMap.get?_insert_self]
    simp [lengthValue, h]

theorem header_sent_field (h : e.WellFormed) (hf : (name, value) ∈ e.fields) :
    header (sent e) (headerName headerLead name) = value := by
  rw [header, get?_sent_attribute, Event.get?_attributes_field h hf]
  split
  · rename_i hv
    rw [hv]
    rfl
  · rfl

theorem carried_sent_field (h : e.WellFormed) (hf : (name, value) ∈ e.fields)
    (hn : name ≠ dataContentType) : carried (sent e) name = value := by
  rw [← header_sent_field h hf, headerName_of_ne _ hn]
  rfl

theorem mem_keys_sent (h : name ∈ (sent e).keys) :
    name ∈ (toHeaders e headerLead).keys ∨ name = contentLength := by
  rw [OrderedMap.keys, toList_sent, List.map_append, List.mem_append] at h
  refine h.imp_right fun hn => ?_
  rw [Event.entry] at hn
  split at hn
  · simp at hn
  · exact List.mem_singleton.1 hn

theorem lowercase_of_mem_sent (h : e.WellFormed) (hn : name ∈ (sent e).keys) :
    lowercase name = name := by
  rcases mem_keys_sent hn with hn | rfl
  · exact lowercase_of_mem_toHeaders h hn
  · exact lowercase_contentLength

/-- Lowercasing the names of the headers changes none of them. -/
theorem mapKeys_sent (h : e.WellFormed) : (sent e).mapKeys lowercase = sent e :=
  OrderedMap.mapKeys_eq_self fun _ hn => lowercase_of_mem_sent h hn

end CloudEvents.Binary
