import CloudEvents.Fault
import CloudEvents.Text.CodePoints

/-! Request bodies: streams, and how much of them is read. -/
namespace CloudEvents

/-- What one read of a scripted stream gives. -/
inductive Reply
  | chunk (bytes : List UInt8)
  /-- There is nothing at the moment. -/
  | nothing
  | fault (f : Fault)
  deriving DecidableEq

/-- Where the bytes of a stream come from. -/
inductive BodySource
  /-- Bytes in memory, read up to `position`. -/
  | memory (rest : List UInt8) (position : Nat)
  /-- Bytes that arrive at most `step` at a time. -/
  | paced (rest : List UInt8) (step : Nat)
  /-- One reply after another, whatever is asked for, and then the end. -/
  | scripted (replies : List Reply)
  /-- A value in the place of a stream, which cannot be read. -/
  | unreadable (value : Scalar)
  deriving DecidableEq

/-- Grows smaller with every read that gives something. -/
def BodySource.pending : BodySource → Nat
  | memory rest _ | paced rest _ => rest.length
  | scripted replies => replies.length
  | unreadable _ => 0

structure BodyStream where
  source : BodySource
  /-- The counts asked for so far. -/
  reads : Array Nat := #[]
  deriving DecidableEq

namespace BodyStream

variable {n : Nat} {s t : BodyStream} {b : UInt8} {bs : List UInt8}

def ofBytes (bytes : List UInt8) : BodyStream := ⟨.memory bytes 0, #[]⟩

/-- Asks for up to `n` bytes. No bytes mean the end, and so does nothing at all. -/
def read (n : Nat) : EStateM Fault BodyStream (Option (List UInt8)) := fun s =>
  let reads := s.reads.push n
  match s.source with
  | .memory rest position =>
    if Fault.maxIndex < n then .error .indexLimit ⟨s.source, reads⟩
    else .ok (some (rest.take n)) ⟨.memory (rest.drop n) (position + min n rest.length), reads⟩
  | .paced rest step =>
    .ok (some (rest.take (min n step))) ⟨.paced (rest.drop (min n step)) step, reads⟩
  | .scripted [] => .ok (some []) ⟨.scripted [], reads⟩
  | .scripted (.chunk bytes :: r) => .ok (some bytes) ⟨.scripted r, reads⟩
  | .scripted (.nothing :: r) => .ok none ⟨.scripted r, reads⟩
  | .scripted (.fault f :: r) => .error f ⟨.scripted r, reads⟩
  | .unreadable value => .error (.missingOperation value "read") s

theorem length_drop_lt {l : List UInt8} {k : Nat} (h : l.take k = b :: bs) :
    (l.drop k).length < l.length := by
  cases l with
  | nil => simp at h
  | cons _ r =>
    cases k with
    | zero => simp at h
    | succ k =>
      simp only [List.drop_succ_cons, List.length_cons, List.length_drop]
      omega

theorem pending_lt_of_read (h : (read n).run s = .ok (some (b :: bs)) t) :
    t.source.pending < s.source.pending := by
  obtain ⟨source, reads⟩ := s
  cases source with
  | memory rest position =>
    simp only [EStateM.run, read] at h
    split at h
    · simp at h
    · simp only [EStateM.Result.ok.injEq, Option.some.injEq] at h
      rw [← h.2]
      exact length_drop_lt h.1
  | paced rest step =>
    simp only [EStateM.run, read, EStateM.Result.ok.injEq, Option.some.injEq] at h
    rw [← h.2]
    exact length_drop_lt h.1
  | scripted replies =>
    rcases replies with _ | ⟨_ | _ | _, r⟩ <;>
      simp only [EStateM.run, read, EStateM.Result.ok.injEq, Option.some.injEq, reduceCtorEq,
        false_and] at h
    rw [← h.2]
    simp [BodySource.pending]
  | unreadable value => simp [EStateM.run, read] at h

end BodyStream

namespace Body

open Text

/-- Holds of texts that are one or more decimal digits. -/
def isNumeral (s : String) : Bool := s != "" && s.toList.all Char.isDigit

/-- The length that a text declares. A fault carries the text as it was given. -/
def parseLength (s : String) : Except Fault Nat :=
  let numeral := trim s
  if !isNumeral numeral then .error (.malformedLength s)
  else if Fault.maxDigits < numeral.length then .error (.digitLimit numeral.length)
  else .ok (ofDecimal numeral.toList)

/-- The length that a value declares. -/
def declaredLength (value : Scalar) : Except Fault Nat := do parseLength (← value.asText "strip")

@[simp] theorem declaredLength_text (s : String) : declaredLength (.text s) = parseLength s := by
  simp [declaredLength, bind, Except.bind]

/-- What every read of a body without a declared length asks for. -/
def chunkSize : Nat := 65536

/-- A fault of the stream as a fault of reading the body; what is no input or output passes as it
is. -/
def readFault (f : Fault) : Fault := if f.kind.belongsTo .anyIo then .bodyUnread f else f

/-- Reads to the end. `chunks` are those read before, last first. -/
def drain (chunks : List (List UInt8)) (s : BodyStream) :
    EStateM.Result Fault BodyStream (List UInt8) :=
  match _h : (BodyStream.read chunkSize).run s with
  | .error f t => .error (readFault f) t
  | .ok (some (b :: bs)) t => drain ((b :: bs) :: chunks) t
  | .ok _ t => .ok chunks.reverse.flatten t
termination_by s.source.pending
decreasing_by exact BodyStream.pending_lt_of_read _h

/-- Reads a body of the declared length, or of none declared. A short read is taken for the whole
body, and a length of zero asks for nothing. -/
def read : Scalar → EStateM Fault BodyStream (List UInt8)
  | .null => fun s => drain [] s
  | declared =>
    match declaredLength declared with
    | .error f => throw f
    | .ok 0 => pure []
    | .ok n => do
      let chunk ← (BodyStream.read n).adaptExcept readFault
      return chunk.getD []

end Body

end CloudEvents
