import CloudEvents.Binary.Encode
import CloudEvents.Proofs.Response.Recorder

/-! Writing an event to a response that may fail at any call. -/
namespace CloudEvents.Binary

open Attribute Recorder

variable {e : Event} {bytes : List UInt8}

def headerCalls (e : Event) : List Call :=
  (toHeaders e headerLead).toList.map fun header => .addHeader header.1 header.2

/-- The calls that write a payload, in order. -/
def dataCalls (bytes : List UInt8) : List Call :=
  [.addHeader contentLength (.text (Text.signed bytes.length)), .setStatus Status.ok] ++
    ([.openBody] ++ ([.write bytes, .flush] ++ [.close]))

/-- The calls that write an event, in order. -/
def writeCalls (e : Event) : List Call :=
  headerCalls e ++
    match e.data with
    | none => [.setStatus Status.noContent]
    | some bytes => dataCalls bytes

theorem performs_addHeader (name : String) (value : Scalar) :
    Performs (ResponseWriter.addHeader name value) [.addHeader name value] :=
  performs_record (by simp)

theorem performs_setStatus (status : Int) :
    Performs (ResponseWriter.setStatus status) [.setStatus status] :=
  performs_record (by simp)

theorem performs_use (bytes : List UInt8) (stream : Nat) :
    Performs (do
      let _ ← ResponseWriter.writeBody stream bytes
      ResponseWriter.flushBody stream) [.write bytes, .flush] := by
  have hwrite : Performs (record (.write bytes)) [.write bytes] := performs_record (by simp)
  have hflush : Performs (record .flush) [.flush] := performs_record (by simp)
  have hbind : (do
      let _ ← ResponseWriter.writeBody stream bytes
      ResponseWriter.flushBody stream : EStateM Fault Recorder Unit) =
      (do record (.write bytes); record .flush) := by
    simp only [ResponseWriter.writeBody, ResponseWriter.flushBody, bind_assoc, pure_bind]
  rw [hbind]
  exact hwrite.seq hflush

theorem endsWith_writeData (bytes : List UInt8) : EndsWith (writeData bytes) (dataCalls bytes) := by
  have hlength := performs_addHeader contentLength (.text (Text.signed bytes.length))
  have hstatus := hlength.seq (performs_setStatus Status.ok)
  have hbody := endsWith_withBody (performs_use bytes) (by simp [Call.usesStream])
  have hall := hstatus.seq_endsWith (by simp [Call.usesStream]) hbody
  rw [bind_assoc] at hall
  exact hall

theorem endsWith_write (e : Event) : EndsWith (write e) (writeCalls e) := by
  have hheaders : Performs (forM (toHeaders e headerLead).toList fun header =>
      ResponseWriter.addHeader header.1 header.2) (headerCalls e) :=
    performs_forM (fun header : String × Scalar => performs_addHeader header.1 header.2) _
  have hplain : ∀ c ∈ headerCalls e, c.usesStream = false ∧ c ≠ .openBody := by
    intro c hc
    obtain ⟨header, -, rfl⟩ := List.mem_map.1 hc
    simp [Call.usesStream]
  refine hheaders.seq_endsWith hplain ?_
  cases e.data with
  | none => exact (performs_setStatus Status.noContent).endsWith (by simp [Call.usesStream])
  | some bytes => exact endsWith_writeData bytes

theorem writeFault_eq (id : String) (f : Fault) : writeFault id f =
    if f.kind.belongsTo .encode ∨ ¬ (f.kind.belongsTo .anyIo ∨ f.kind.belongsTo .anyValue) then f
    else .writeFailed id f := by
  rw [writeFault]
  by_cases hencode : f.kind.belongsTo .encode
  · simp [hencode]
  · by_cases hother : f.kind.belongsTo .anyIo ∨ f.kind.belongsTo .anyValue
    · simp [hencode, hother]
    · simp [hencode, hother]

/-- Writing succeeds exactly when no call raises a fault, and otherwise ends with the last fault
that was raised. That fault stays as it is when it is one of writing an event already, or has to do
neither with bytes nor with values. -/
theorem encode_ends (e : Event) (r : Recorder) :
    ∃ made left streams, r.EndedBy (writeCalls e) made left streams ∧
      (left = none ↔ r.Quiet (writeCalls e)) ∧
      (encode e).run r =
        match left with
        | none => .ok () { r.after made with closed := r.closed ++ streams }
        | some f => .error
            (if f.kind.belongsTo .encode ∨ ¬ (f.kind.belongsTo .anyIo ∨ f.kind.belongsTo .anyValue)
              then f else .writeFailed e.id f)
            { r.after made with closed := r.closed ++ streams } := by
  obtain ⟨made, left, streams, hended, hrun⟩ := endsWith_write e r
  refine ⟨made, left, streams, hended, hended.ends.left_eq_none_iff, ?_⟩
  rw [encode, EStateM.run_adaptExcept, hrun]
  cases left with
  | none => rfl
  | some f =>
    simp only [outcome, writeFault_eq]

end CloudEvents.Binary
