import CloudEvents.Proofs.Event.WellFormed
import CloudEvents.Proofs.Time.Reading

/-! Drafts with several faults, and the first rule that a draft breaks. -/
namespace CloudEvents

open Text
open Fault (Kind)

variable {α β : Type} {d : Draft} {e : Event} {k : Kind} {f : Fault} {m : OrderedMap Scalar}
  {x : OrderedMap String}

/-- Holds of a time and the timestamp that it is taken for. -/
inductive TimeValue.Means : TimeValue → Timestamp → Prop
  | text {s : String} {t : Timestamp} (h : Rfc3339.read s = .ok t) : Means (.text s) t
  /-- A timestamp is taken for itself, also where its zone leaves the offset open. -/
  | stamp (t : Timestamp) : Means (.stamp t) t

/-- Holds of a time and what it is refused for. -/
inductive TimeValue.Refused : TimeValue → Kind → Fault → Prop
  | text {s : String} {f : Fault} (h : Rfc3339.read s = .error f) :
      Refused (.text s) .malformedTimestamp f
  | unzoned (t : DateTime) :
      Refused (.unzoned t) .malformedTimestamp (.malformedTimestamp (Rfc3339.writeClock t))

/-- Holds of a payload and the bytes that it is taken for. -/
inductive Payload.Means : Payload → List UInt8 → Prop
  | bytes (b : List UInt8) : Means (.bytes b) b
  | numbers (b : List UInt8) : Means (.numbers (b.map fun n => (n.toNat : Int))) b
  | zeros {n : Nat} (h : n ≤ Fault.maxSize) : Means (.zeros n) (List.replicate n 0)

/-- Holds of a payload and what it is refused for. A count may be too large in two ways. -/
inductive Payload.Refused : Payload → Kind → Fault → Prop
  | text (s : String) : Refused (.text s) .wrongType .textPayload
  | numbers {ns : List Int} (h : ∃ n ∈ ns, n < 0 ∨ 255 < n) :
      Refused (.numbers ns) .anyValue .byteRange
  | negative {n : Int} (h : n < 0) (hi : -Fault.maxIndex - 1 ≤ n) :
      Refused (.zeros n) .anyValue .negativeCount
  | index {n : Int} (h : n < -Fault.maxIndex - 1 ∨ Fault.maxIndex < n) :
      Refused (.zeros n) .overflow .indexLimit
  | size {n : Int} (h : Fault.maxSize < n) (hi : n ≤ Fault.maxIndex) :
      Refused (.zeros n) .overflow .sizeLimit

/-- Holds of the first member of a list that has a property. -/
def First (p : α → Prop) (l : List α) (a : α) : Prop :=
  ∃ before after, l = before ++ a :: after ∧ (∀ b ∈ before, ¬ p b) ∧ p a

namespace Draft

/-- The texts that a draft must have, in the order in which they are asked for. -/
def texts (d : Draft) : List (String × Option String) :=
  [(Attribute.id, d.id), (Attribute.source, d.source), (Attribute.specVersion, d.specVersion),
    (Attribute.type, d.type)]

/-- Holds of a text that is there and is not empty. -/
def Present (v : Option String) : Prop := ∃ t, v = some t ∧ t ≠ ""

/-- Holds of a draft that has every text that it must have. -/
def Complete (d : Draft) : Prop := ∀ x ∈ d.texts, Present x.2

/-- Holds of a complete draft of the only version of the format. -/
structure Supported (d : Draft) : Prop where
  complete : d.Complete
  version : d.specVersion = some "1.0"

/-- Holds of a supported draft whose time, if it has one, is accepted. -/
structure Timed (d : Draft) : Prop where
  supported : d.Supported
  time : ∃ u, Option.Rel TimeValue.Means d.time u

/-- Holds of such a draft whose payload, if it has one, is accepted as well. -/
structure Loaded (d : Draft) : Prop where
  timed : d.Timed
  data : ∃ b, Option.Rel Payload.Means d.data b

/-- What a draft is refused for. There is a rule for each thing that is checked, in the order in
which they are, and a rule applies where none of those before it does. -/
inductive Refused (d : Draft) : Kind → Fault → Prop
  | missing {x : String × Option String} (h : First (fun y => ¬ Present y.2) d.texts x) :
      Refused d .missingAttribute (.missingAttribute x.1)
  | version {v : String} (hc : d.Complete) (hv : d.specVersion = some v) (hn : v ≠ "1.0") :
      Refused d .unsupportedVersion (.unsupportedVersion v)
  | time {t : TimeValue} {k : Kind} {f : Fault} (hs : d.Supported) (ht : d.time = some t)
      (h : t.Refused k f) : Refused d k f
  | data {p : Payload} {k : Kind} {f : Fault} (ht : d.Timed) (hd : d.data = some p)
      (h : p.Refused k f) : Refused d k f
  | extension {name : String} (hl : d.Loaded)
      (h : First (fun n => lowercase n ∈ Attribute.reserved) d.extensions.keys name) :
      Refused d .anyValue (.reservedExtension name)

/-- Holds of extensions under free names, and of the same under lowercase names, with texts for
values. A name that comes more than once stands where it came first, and has its last value. -/
structure Merges (m : OrderedMap Scalar) (x : OrderedMap String) : Prop where
  free : ∀ name ∈ m.keys, lowercase name ∉ Attribute.reserved
  keys : x.keys = (m.keys.map lowercase).eraseDups
  last : ∀ before name v after, m.toList = before ++ (name, v) :: after →
    (∀ y ∈ after, lowercase y.1 ≠ lowercase name) → x.get? (lowercase name) = some v.render

end Draft

theorem first_iff {p : α → Prop} [DecidablePred p] {l : List α} {a : α} :
    First p l a ↔ l.find? (fun b => p b) = some a := by
  rw [List.find?_eq_some_iff_append, First]
  constructor
  · rintro ⟨before, after, rfl, hb, ha⟩
    exact ⟨by simpa using ha, before, after, rfl, by simpa using hb⟩
  · rintro ⟨ha, before, after, rfl, hb⟩
    exact ⟨before, after, rfl, by simpa using hb, by simpa using ha⟩

theorem exists_first {p : α → Prop} {l : List α} (h : ∃ a ∈ l, p a) : ∃ a, First p l a := by
  classical
  obtain ⟨a, ha, hp⟩ := h
  cases hf : l.find? (fun b => p b) with
  | some b => exact ⟨b, first_iff.2 hf⟩
  | none => exact absurd hp (by simpa using List.find?_eq_none.1 hf a ha)

theorem exists_last {p : α → Prop} {l : List α} (h : ∃ a ∈ l, p a) :
    ∃ before a after, l = before ++ a :: after ∧ p a ∧ ∀ b ∈ after, ¬ p b := by
  obtain ⟨a, ha, hp⟩ := h
  obtain ⟨b, before, after, hl, hb, hpb⟩ :=
    exists_first (p := p) (l := l.reverse) ⟨a, List.mem_reverse.2 ha, hp⟩
  refine ⟨after.reverse, b, before.reverse, ?_, hpb, by simpa using hb⟩
  rw [← List.reverse_inj, hl]
  simp

namespace TimeValue

variable {t : TimeValue} {u : Timestamp}

end TimeValue

namespace Payload

variable {p : Payload} {b : List UInt8} {ns : List Int} {n : Int}

end Payload

namespace Draft

variable {given : Option String} {name v : String}

theorem requireText_of_present (name : String) (h : Present given) :
    ∃ v, given = some v ∧ requireText name given = .ok v := by
  obtain ⟨v, hv, hne⟩ := h
  exact ⟨v, hv, requireText_eq_ok_iff.2 ⟨hv, hne⟩⟩

/-- Once every text is there, the version is looked at, and then the time, the payload and the
extensions. -/
theorem Complete.build_eq (h : d.Complete) : ∃ i s v t, d.specVersion = some v ∧ d.build = do
    let version ← supportedVersion v
    let time ← optional TimeValue.resolve d.time
    let data ← optional Payload.resolve d.data
    let extensions ← checkExtensions d.extensions
    return {
      id := i, source := s, type := t, specVersion := version, time, data, extensions
      dataContentType := d.dataContentType
      dataSchema := d.dataSchema
      subject := d.subject } := by
  simp only [Complete, texts, List.forall_mem_cons] at h
  obtain ⟨hid, hsource, hversion, htype, -⟩ := h
  obtain ⟨i, -, hid⟩ := requireText_of_present Attribute.id hid
  obtain ⟨s, -, hsource⟩ := requireText_of_present Attribute.source hsource
  obtain ⟨v, hv, hversion⟩ := requireText_of_present Attribute.specVersion hversion
  obtain ⟨t, -, htype⟩ := requireText_of_present Attribute.type htype
  refine ⟨i, s, v, t, hv, ?_⟩
  simp only [build, hid, hsource, hversion, htype]
  rfl

theorem Supported.build_eq (h : d.Supported) : ∃ i s t, d.build = do
    let time ← optional TimeValue.resolve d.time
    let data ← optional Payload.resolve d.data
    let extensions ← checkExtensions d.extensions
    return {
      id := i, source := s, type := t, specVersion := "1.0", time, data, extensions
      dataContentType := d.dataContentType
      dataSchema := d.dataSchema
      subject := d.subject } := by
  obtain ⟨i, s, v, t, hv, hbuild⟩ := h.complete.build_eq
  have hone : supportedVersion "1.0" = .ok "1.0" := if_pos (by decide)
  rw [h.version, Option.some.injEq] at hv
  subst hv
  rw [hone] at hbuild
  exact ⟨i, s, t, hbuild⟩

section Optional

variable {R : α → β → Prop} {g : α → Except Fault β} {o : Option α} {r : Option β}

end Optional

theorem Merges.unique {y : OrderedMap String} (hx : Merges m x) (hy : Merges m y) : x = y := by
  refine OrderedMap.eq_of_get? (hx.keys.trans hy.keys.symm) fun n hn => ?_
  rw [hx.keys, List.mem_eraseDups, OrderedMap.keys, List.map_map, List.mem_map] at hn
  obtain ⟨before, ⟨given, v⟩, after, hm, hn, hafter⟩ := exists_last hn
  change lowercase given = n at hn
  subst hn
  rw [hx.last before given v after hm hafter, hy.last before given v after hm hafter]

end Draft

end CloudEvents
