import CloudEvents.Proofs.Binary.Forwarding
import CloudEvents.Proofs.Binary.Refusals
import CloudEvents.Proofs.Body.Consumed
import CloudEvents.Proofs.Text.Lowercase

/-! Requests with several faults, of which the first stage that fails reports its own. -/
namespace CloudEvents.Binary

open Attribute Text
open Body (Consumes Declares)

variable {h : OrderedMap String} {s : String} {body rest : BodyStream} {f : Fault}
  {count : Option Nat} {result other : Except Fault (List UInt8)}

/-- Holds of texts with the media type of a document in them, in any letter case. -/
def NamesDocument (s : String) : Prop :=
  ∃ mediaType ∈ [structuredMediaType, batchMediaType],
    ∃ v, v <:+: s.toList ∧ v.map Char.toLower = mediaType.toList

theorem namesDocument_iff : namesDocument s ↔ NamesDocument s := by
  have hstructured : Native structuredMediaType.toList := by decide
  have hbatch : Native batchMediaType.toList := by decide
  simp only [namesDocument, Bool.or_eq_true, occursIn_iff, infix_lowercase_iff hstructured,
    infix_lowercase_iff hbatch, NamesDocument, List.mem_cons, List.not_mem_nil, or_false,
    exists_eq_or_imp, exists_eq_left]

/-- The text of an attribute, which is empty where there is no such header. -/
def given (h : OrderedMap String) (name : String) : String :=
  (lastValue h (headerLead ++ name)).getD ""

/-- The payload that bytes are. -/
def payloadOf (bytes : List UInt8) : Option (List UInt8) := if bytes = [] then none else some bytes

/-- Holds of the headers whose content type, if there is one, leaves the event to them. -/
def KeepsMode (h : OrderedMap String) : Prop := ∀ v ∈ lastValue h contentType, ¬ NamesDocument v

/-- Holds of the headers whose time, if there is one, is a timestamp. -/
def KeepsTime (h : OrderedMap String) : Prop :=
  ∀ v ∈ lastValue h timeHeader, ∃ t, Rfc3339.read v = .ok t

/-- Holds of the headers that a body of the length, or of none, is read for. -/
structure Reaches (h : OrderedMap String) (count : Option Nat) : Prop where
  mode : KeepsMode h
  time : KeepsTime h
  length : Declares (lastValue h contentLength) count

/-- The fault that is said to come of a request, or else the bytes of its body, and what is left of
the body then. There is a rule for each stage that may fail, in the order of the stages. -/
inductive Staged (h : OrderedMap String) (body : BodyStream) :
    Except Fault (List UInt8) → BodyStream → Prop
  | mode {v : String} (hv : lastValue h contentType = some v) (hd : NamesDocument v) :
      Staged h body (.error (.unsupportedMode v)) body
  | time {v : String} {f : Fault} (hm : KeepsMode h) (hv : lastValue h timeHeader = some v)
      (hr : Rfc3339.read v = .error f) (hk : f.kind = .malformedTimestamp) :
      Staged h body (.error f) body
  | length {v : String} {f : Fault} (hm : KeepsMode h) (ht : KeepsTime h)
      (hv : lastValue h contentLength = some v) (hp : Body.parseLength v = .error f) :
      Staged h body (.error (.malformedLength v)) body
  | body {count : Option Nat} {f : Fault} {rest : BodyStream} (hr : Reaches h count)
      (hc : Consumes count body (.error f) rest) : Staged h body (.error f) rest
  | missing {count : Option Nat} {bytes : List UInt8} {rest : BodyStream} {name : String}
      (hr : Reaches h count) (hc : Consumes count body (.ok bytes) rest)
      (hn : required.find? (given h · = "") = some name) :
      Staged h body (.error (.missingAttribute name)) rest
  | version {count : Option Nat} {bytes : List UInt8} {rest : BodyStream}
      (hr : Reaches h count) (hc : Consumes count body (.ok bytes) rest)
      (hn : required.find? (given h · = "") = none) (hv : given h specVersion ≠ "1.0") :
      Staged h body (.error (.unsupportedVersion (given h specVersion))) rest
  | event {count : Option Nat} {bytes : List UInt8} {rest : BodyStream}
      (hr : Reaches h count) (hc : Consumes count body (.ok bytes) rest)
      (hn : required.find? (given h · = "") = none) (hv : given h specVersion = "1.0") :
      Staged h body (.ok bytes) rest

/-- Holds of the requests whose mode and time are accepted and whose length is a number of more
digits than are converted. -/
structure Overcounts (h : OrderedMap String) : Prop where
  mode : KeepsMode h
  time : KeepsTime h
  length : ∃ v, lastValue h contentLength = some v ∧ Body.isNumeral (trim v) ∧
    Fault.maxDigits < (trim v).length

/-- Holds of a reading that came to a fault, or to an event with the given payload, and left the
rest of the body. -/
def Decoded.ComesTo (d : Decoded) (result : Except Fault (List UInt8)) (rest : BodyStream) : Prop :=
  d.result.map (·.data) = result.map payloadOf ∧ d.body = rest

theorem payloadOf_injective : Function.Injective payloadOf := by
  intro a b hab
  unfold payloadOf at hab
  split at hab <;> split at hab <;> simp_all

theorem map_payloadOf_inj : result.map payloadOf = other.map payloadOf ↔ result = other := by
  refine ⟨fun heq => ?_, congrArg _⟩
  cases result <;> cases other <;> simp only [Except.map, reduceCtorEq, Except.ok.injEq,
    Except.error.injEq] at heq ⊢
  · exact heq
  · exact payloadOf_injective heq

theorem get?_texts (h : OrderedMap String) (name : String) :
    ((h.map Scalar.text).mapKeys lowercase).get? name = (lastValue h name).map .text := by
  rw [OrderedMap.mapKeys_map, OrderedMap.get?_map, get?_mapKeys_lowercase]

theorem header_texts (h : OrderedMap String) (name : String) :
    header ((h.map .text).mapKeys lowercase) name = ((lastValue h name).map .text).getD .null := by
  rw [header, get?_texts]

theorem requireText_texts (h : OrderedMap String) (name : String) :
    Draft.requireText name (carried ((h.map .text).mapKeys lowercase) name).text? =
      if given h name = "" then .error (.missingAttribute name) else .ok (given h name) := by
  rw [carried, header_texts, given]
  cases lastValue h (headerLead ++ name) <;> rfl

theorem checkMode_of_names {v : String} (hv : lastValue h contentType = some v)
    (hd : NamesDocument v) :
    checkMode (header ((h.map .text).mapKeys lowercase) contentType) =
      .error (.unsupportedMode v) := by
  rw [header_texts, hv, Option.map_some, Option.getD_some, checkMode_of_ok (isStructured_text v),
    if_pos (namesDocument_iff.2 hd)]
  rfl

theorem checkMode_of_keeps (hm : KeepsMode h) :
    checkMode (header ((h.map .text).mapKeys lowercase) contentType) = .ok () := by
  rw [header_texts]
  cases hv : lastValue h contentType with
  | none => rfl
  | some v =>
    rw [Option.map_some, Option.getD_some, checkMode_of_ok (isStructured_text v),
      if_neg fun hd => hm v hv (namesDocument_iff.1 hd)]

theorem readTime_of_error {v : String} (hv : lastValue h timeHeader = some v)
    (hr : Rfc3339.read v = .error f) :
    Draft.optional readTime (((h.map Scalar.text).mapKeys lowercase).get? timeHeader) =
      .error f := by
  rw [get?_texts, optional_readTime, hv, Draft.optional, hr]
  rfl

theorem readTime_of_keeps (ht : KeepsTime h) : ∃ moment,
    Draft.optional readTime (((h.map Scalar.text).mapKeys lowercase).get? timeHeader) =
      .ok moment := by
  rw [get?_texts, optional_readTime]
  cases hv : lastValue h timeHeader with
  | none => exact ⟨none, rfl⟩
  | some v =>
    obtain ⟨t, hr⟩ := ht v hv
    exact ⟨some t, by rw [Draft.optional, hr]; rfl⟩

/-- Once the mode and the time are accepted, the body is read, and the event is built of what came
of that. -/
theorem decode_of_keeps (hm : KeepsMode h) (ht : KeepsTime h)
    (hb : Body.attempt (lastValue h contentLength) body = (result, rest)) : ∃ moment,
    (decode (h.map .text) body).result = result >>= (fun bytes =>
      (draft ((h.map .text).mapKeys lowercase) moment bytes).build) ∧
    (decode (h.map .text) body).body = rest := by
  obtain ⟨moment, hmoment⟩ := readTime_of_keeps ht
  refine ⟨moment, ?_⟩
  rw [Body.attempt, ← header_texts] at hb
  rw [decode_eq_decodeBody (checkMode_of_keeps hm) hmoment]
  simp only [decodeBody]
  cases hrun : (Body.read (header ((h.map .text).mapKeys lowercase) contentLength)).run body with
  | error f t =>
    rw [hrun] at hb
    cases hb
    exact ⟨rfl, rfl⟩
  | ok bytes t =>
    rw [hrun] at hb
    cases hb
    exact ⟨rfl, rfl⟩

/-- The bytes of a body, when the required attributes are there and the version is the one there
is. -/
def checked (h : OrderedMap String) (bytes : List UInt8) : Except Fault (List UInt8) :=
  match required.find? (given h · = "") with
  | some name => .error (.missingAttribute name)
  | none =>
    if given h specVersion = "1.0" then .ok bytes
    else .error (.unsupportedVersion (given h specVersion))

theorem data_build_texts (h : OrderedMap String) (moment : Option Timestamp) (bytes : List UInt8) :
    (draft ((h.map .text).mapKeys lowercase) moment bytes).build.map (·.data) =
      (checked h bytes).map payloadOf := by
  have hlower : ∀ name ∈ ((h.map Scalar.text).mapKeys lowercase).keys, lowercase name = name :=
    fun _ hn => lowercase_of_mem_mapKeys hn
  simp only [Draft.build, draft, requireText_texts, optional_stamp, optional_bytes,
    checkExtensions_extensions hlower, checked, required]
  -- the attributes are asked for in the order in which they are listed as required
  by_cases hid : given h id = ""
  · simp [hid, bind, Except.bind, Except.map]
  by_cases hsource : given h source = ""
  · simp [hid, hsource, bind, Except.bind, Except.map]
  by_cases hversion : given h specVersion = ""
  · simp [hid, hsource, hversion, bind, Except.bind, Except.map]
  by_cases htype : given h type = ""
  · simp [hid, hsource, hversion, htype, bind, Except.bind, Except.map]
  have hsupported : given h specVersion ∈ supportedVersions ↔ given h specVersion = "1.0" := by
    rw [supportedVersions, List.mem_singleton, Attribute.version]
  by_cases hone : given h specVersion = "1.0"
  · simp [hid, hsource, htype, hone, Draft.supportedVersion, supportedVersions, Attribute.version,
      bind, Except.bind, pure, Except.pure, Except.map, payloadOf]
  · simp [hid, hsource, hversion, htype, hone, Draft.supportedVersion, hsupported, bind,
      Except.bind, Except.map]

/-- Of the length, the fault that is reported is the one that is said to be, but for a number of
very many digits. -/
theorem parseLength_of_error {v : String} (ho : ¬ Overcounts h) (hm : KeepsMode h)
    (ht : KeepsTime h) (hv : lastValue h contentLength = some v)
    (hp : Body.parseLength v = .error f) : f = .malformedLength v := by
  rw [Body.parseLength_eq] at hp
  split at hp
  · rename_i hn
    split at hp
    · rename_i hd
      exact absurd ⟨hm, ht, v, hv, hn, hd⟩ ho
    · cases hp
  · cases hp
    rfl

theorem comesTo_of_reaches (hr : Reaches h count) (hc : Consumes count body result rest) :
    (decode (h.map .text) body).ComesTo (result >>= checked h) rest := by
  obtain ⟨moment, hresult, hbody⟩ :=
    decode_of_keeps hr.mode hr.time ((Body.consumes_iff hr.length).1 hc)
  refine ⟨?_, hbody⟩
  rw [hresult]
  cases result with
  | error f => rfl
  | ok bytes => exact data_build_texts h moment bytes

/-- A fault of the length is reported as it is, before anything is read. -/
theorem decode_of_parseLength_error {v : String} (hm : KeepsMode h) (ht : KeepsTime h)
    (hv : lastValue h contentLength = some v) (hp : Body.parseLength v = .error f) :
    (decode (h.map .text) body).ComesTo (.error f) body := by
  have hattempt : Body.attempt (lastValue h contentLength) body = (.error f, body) := by
    rw [hv]
    exact Body.attempt_of_error hp
  obtain ⟨moment, hresult, hbody⟩ := decode_of_keeps hm ht hattempt
  exact ⟨congrArg _ hresult, hbody⟩

/-- What is said to come of a request does. -/
theorem comesTo_of_staged (ho : ¬ Overcounts h) (hs : Staged h body result rest) :
    (decode (h.map .text) body).ComesTo result rest := by
  cases hs with
  | mode hv hd =>
    obtain ⟨hresult, hbody⟩ := decode_of_mode_error (checkMode_of_names hv hd)
    exact ⟨congrArg _ hresult, hbody⟩
  | time hm hv hr hk =>
    obtain ⟨hresult, hbody⟩ :=
      decode_of_time_error (checkMode_of_keeps hm) (readTime_of_error hv hr)
    exact ⟨congrArg _ hresult, hbody⟩
  | length hm ht hv hp =>
    rw [← parseLength_of_error ho hm ht hv hp]
    exact decode_of_parseLength_error hm ht hv hp
  | body hr hc => exact comesTo_of_reaches hr hc
  | missing hr hc hn => simpa [bind, Except.bind, checked, hn] using comesTo_of_reaches hr hc
  | version hr hc hn hv =>
    simpa [bind, Except.bind, checked, hn, hv] using comesTo_of_reaches hr hc
  | event hr hc hn hv =>
    simpa [bind, Except.bind, checked, hn, hv] using comesTo_of_reaches hr hc

theorem exists_staged (h : OrderedMap String) (body : BodyStream) :
    ∃ result rest, Staged h body result rest := by
  by_cases hm : KeepsMode h
  case neg =>
    simp only [KeepsMode, not_forall, not_not] at hm
    obtain ⟨v, hv, hd⟩ := hm
    exact ⟨_, _, .mode hv hd⟩
  by_cases ht : KeepsTime h
  case neg =>
    simp only [KeepsTime, not_forall, not_exists] at ht
    obtain ⟨v, hv, hnot⟩ := ht
    cases hr : Rfc3339.read v with
    | ok t => exact absurd hr (hnot t)
    | error f => exact ⟨_, _, .time hm hv hr (Rfc3339.kind_of_read hr)⟩
  have hreached : ∀ count, Declares (lastValue h contentLength) count →
      ∃ result rest, Staged h body result rest := by
    intro count hl
    have hr : Reaches h count := ⟨hm, ht, hl⟩
    obtain ⟨result, rest, hc⟩ := Body.exists_consumes count body
    cases result with
    | error f => exact ⟨_, _, .body hr hc⟩
    | ok bytes =>
      cases hn : required.find? (given h · = "") with
      | some name => exact ⟨_, _, .missing hr hc hn⟩
      | none =>
        by_cases hv : given h specVersion = "1.0"
        · exact ⟨_, _, .event hr hc hn hv⟩
        · exact ⟨_, _, .version hr hc hn hv⟩
  cases hv : lastValue h contentLength with
  | none => exact hreached none (hv ▸ .absent)
  | some v =>
    cases hp : Body.parseLength v with
    | error f => exact ⟨_, _, .length hm ht hv hp⟩
    | ok n => exact hreached (some n) (hv ▸ .counted hp)

theorem Decoded.ComesTo.unique {d : Decoded} {t : BodyStream} (hd : d.ComesTo result rest)
    (ho : d.ComesTo other t) : result = other ∧ rest = t :=
  ⟨map_payloadOf_inj.1 (hd.1.symm.trans ho.1), hd.2.symm.trans ho.2⟩

theorem parseLength_of_long {v : String} (hn : Body.isNumeral (trim v))
    (hd : Fault.maxDigits < (trim v).length) :
    Body.parseLength v = .error (.digitLimit (trim v).length) := by
  rw [Body.parseLength_eq, if_pos hn, if_pos hd]

/-- A request comes to the fault of the first stage that fails, or else to an event, and the body
has been read as far as that stage reads it, unless its length is a number of very many digits. -/
theorem staged_iff_comesTo : (∀ result rest, Staged h body result rest ↔
    (decode (h.map .text) body).ComesTo result rest) ↔ ¬ Overcounts h := by
  constructor
  · rintro hall ⟨hm, ht, v, hv, hn, hd⟩
    have hp := parseLength_of_long hn hd
    have hsaid := (hall _ _).1 (.length hm ht hv hp)
    cases (hsaid.unique (decode_of_parseLength_error hm ht hv hp)).1
  · intro ho result rest
    refine ⟨comesTo_of_staged ho, fun hc => ?_⟩
    obtain ⟨other, t, hs⟩ := exists_staged h body
    obtain ⟨rfl, rfl⟩ := (comesTo_of_staged ho hs).unique hc
    exact hs

/-- One digit more than are converted. -/
def longLength : String := String.ofList (List.replicate (Fault.maxDigits + 1) '1')

def longRequest : OrderedMap String := .ofList [(contentLength, longLength)]

theorem lastValue_longRequest (name : String) :
    lastValue longRequest name = if contentLength = name then some longLength else none := by
  have hlist : longRequest.toList = [(contentLength, longLength)] := rfl
  simp only [lastValue, hlist, List.reverse_singleton, List.find?_singleton,
    lowercase_contentLength, beq_iff_eq]
  split <;> rfl

theorem mem_longLength {c : Char} (hc : c ∈ longLength.toList) : c = '1' := by
  rw [longLength, String.toList_ofList] at hc
  exact List.eq_of_mem_replicate hc

theorem trim_longLength : trim longLength = longLength := by
  refine trim_eq_self fun c hc => ?_
  rw [mem_longLength hc]
  exact isBlank_of_isDigit (by decide)

theorem length_longLength : longLength.length = Fault.maxDigits + 1 := by
  rw [longLength, String.length_ofList, List.length_replicate]

theorem isNumeral_longLength : Body.isNumeral longLength := by
  rw [Body.isNumeral, Bool.and_eq_true, bne_iff_ne, List.all_eq_true]
  constructor
  · intro hempty
    have hlength := length_longLength
    rw [hempty] at hlength
    cases hlength
  · intro c hc
    rw [mem_longLength hc]
    decide

theorem keepsMode_longRequest : KeepsMode longRequest := by
  intro v hv
  rw [lastValue_longRequest, if_neg (by decide)] at hv
  cases hv

theorem keepsTime_longRequest : KeepsTime longRequest := by
  intro v hv
  rw [lastValue_longRequest, if_neg (by decide)] at hv
  cases hv

theorem parseLength_longLength : Body.parseLength longLength = .error (.digitLimit 4301) := by
  have hn : Body.isNumeral (trim longLength) := by
    rw [trim_longLength]
    exact isNumeral_longLength
  have hd : Fault.maxDigits < (trim longLength).length := by
    rw [trim_longLength, length_longLength]
    exact Nat.lt_succ_self _
  rw [parseLength_of_long hn hd, trim_longLength, length_longLength, Fault.maxDigits]

/-- Such a length is refused, and yet reading the event does not fail as it is said to. -/
theorem staged_otherwise_long :
    Body.parseLength longLength = .error (.digitLimit 4301) ∧
    Staged longRequest (.ofBytes [104, 105]) (.error (.malformedLength longLength))
      (.ofBytes [104, 105]) ∧
    (decode (longRequest.map .text) (.ofBytes [104, 105])).ComesTo (.error (.digitLimit 4301))
      (.ofBytes [104, 105]) ∧
    (Fault.digitLimit 4301).kind ≠ .malformedLength := by
  have hv : lastValue longRequest contentLength = some longLength := by
    rw [lastValue_longRequest, if_pos rfl]
  exact ⟨parseLength_longLength,
    .length keepsMode_longRequest keepsTime_longRequest hv parseLength_longLength,
    decode_of_parseLength_error keepsMode_longRequest keepsTime_longRequest hv
      parseLength_longLength, by decide⟩

end CloudEvents.Binary
