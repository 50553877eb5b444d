import CloudEvents.Proofs.Body.Declared

/-! What goes wrong while a body is read from a stream that only fails as bytes are moved. -/
namespace CloudEvents

open Fault Text

variable {n : Nat} {f : Fault} {s t : BodyStream} {chunk : Option (List UInt8)}
  {chunks : List (List UInt8)} {bytes : List UInt8} {declared : String} {value : Scalar}

namespace BodySource

/-- Holds of the sources that can be read and fail, if they do, as bytes are moved. -/
def Sound : BodySource → Prop
  | memory _ _ | paced _ _ => True
  | scripted replies => ∀ f, Reply.fault f ∈ replies → f.kind.belongsTo .anyIo
  | unreadable _ => False

/-- Holds of bytes in memory, which are asked for by counts that index memory. -/
def Held : BodySource → Prop
  | memory _ _ => True
  | paced _ _ | scripted _ | unreadable _ => False

instance (s : BodySource) : Decidable s.Held := by cases s <;> unfold Held <;> infer_instance

end BodySource

namespace BodyStream

theorem sound_of_read (hs : s.source.Sound) (h : (read n).run s = .ok chunk t) :
    t.source.Sound := by
  obtain ⟨source, reads⟩ := s
  cases source with
  | memory rest position =>
    simp only [EStateM.run, read] at h
    split at h
    · cases h
    · cases h
      trivial
  | paced rest step =>
    cases h
    trivial
  | scripted replies =>
    rcases replies with _ | ⟨_ | _ | g, r⟩
    · cases h
      exact hs
    · cases h
      exact fun g hg => hs g (List.mem_cons_of_mem _ hg)
    · cases h
      exact fun g hg => hs g (List.mem_cons_of_mem _ hg)
    · cases h
  | unreadable value => cases hs

/-- A read of a sound stream fails as bytes are moved, or for the count that it asks for. -/
theorem fault_of_read (hs : s.source.Sound) (h : (read n).run s = .error f t) :
    f.kind.belongsTo .anyIo ∨ f = .indexLimit ∧ s.source.Held ∧ maxIndex < n := by
  obtain ⟨source, reads⟩ := s
  cases source with
  | memory rest position =>
    simp only [EStateM.run, read] at h
    split at h
    · rename_i hn
      cases h
      exact Or.inr ⟨rfl, trivial, hn⟩
    · cases h
  | paced rest step => cases h
  | scripted replies =>
    rcases replies with _ | ⟨_ | _ | g, r⟩
    · cases h
    · cases h
    · cases h
    · cases h
      exact Or.inl (hs f List.mem_cons_self)
  | unreadable value => cases hs

theorem run_read_of_held (hh : s.source.Held) (hn : maxIndex < n) :
    ∃ t, (read n).run s = .error .indexLimit t := by
  obtain ⟨source, reads⟩ := s
  cases source with
  | memory rest position =>
    simp only [EStateM.run, read, if_pos hn]
    exact ⟨_, rfl⟩
  | paced rest step => cases hh
  | scripted replies => cases hh
  | unreadable value => cases hh

end BodyStream

namespace Body

/-- What reading a body is said to fail with. -/
def faultKinds : List Kind := [.malformedLength, .bodyUnread]

/-- What reading a body fails with when a limit is met. -/
def limitKinds : List Kind := [.overflow, .anyValue]

/-- Holds of a declared length that is a number, but one that is not converted or, for bytes in
memory, one that does not index them. -/
def Overlong (declared : String) (s : BodyStream) : Prop :=
  isNumeral (trim declared) ∧
    (maxDigits < (trim declared).length ∨
      s.source.Held ∧ maxIndex < ofDecimal (trim declared).toList)

instance (declared : String) (s : BodyStream) : Decidable (Overlong declared s) := by
  unfold Overlong
  infer_instance

theorem readFault_of_anyIo (h : f.kind.belongsTo .anyIo) : readFault f = .bodyUnread f := if_pos h

/-- Without a length, only the stream itself makes reading fail. -/
theorem kind_of_drain (hs : s.source.Sound) (h : drain chunks s = .error f t) :
    f.kind = .bodyUnread := by
  induction chunks, s using drain.induct with
  | case1 chunks s g r hr =>
    rw [drain_of_error hr] at h
    cases h
    rcases BodyStream.fault_of_read hs hr with hg | ⟨-, -, hn⟩
    · rw [readFault_of_anyIo hg]
      rfl
    -- a chunk is never too large to be asked for
    · exact absurd hn (by decide)
  | case2 chunks s b bs r hr ih =>
    rw [drain_of_chunk hr] at h
    exact ih (BodyStream.sound_of_read hs hr) h
  | case3 chunks s chunk r hne hr =>
    rw [drain_of_end hr] at h
    · cases h
    · rcases chunk with _ | _ | ⟨b, bs⟩
      · rfl
      · rfl
      · exact absurd rfl (hne b bs)

theorem parseLength_eq (declared : String) : parseLength declared =
    if isNumeral (trim declared) then
      if maxDigits < (trim declared).length then .error (.digitLimit (trim declared).length)
      else .ok (ofDecimal (trim declared).toList)
    else .error (.malformedLength declared) := by
  rw [parseLength]
  cases isNumeral (trim declared) <;> rfl

/-- Reading a body of a declared length fails as is said, or else the length is overlong. -/
theorem kind_of_run_read (hs : s.source.Sound)
    (h : (read (.text declared)).run s = .error f t) :
    f.kind ∈ faultKinds ∨ Overlong declared s ∧ f.kind ∈ limitKinds := by
  have hparse := parseLength_eq declared
  by_cases hn : isNumeral (trim declared)
  · rw [if_pos hn] at hparse
    by_cases hd : maxDigits < (trim declared).length
    · rw [if_pos hd] at hparse
      rw [read_text_of_error hparse] at h
      cases h
      exact Or.inr ⟨⟨hn, Or.inl hd⟩, by simp [limitKinds, Fault.kind]⟩
    · rw [if_neg hd] at hparse
      rw [read_text hparse] at h
      by_cases h0 : ofDecimal (trim declared).toList = 0
      · rw [h0] at h
        cases h
      · rw [run_readCounted h0] at h
        split at h
        · cases h
        · rename_i g r hr
          cases h
          rcases BodyStream.fault_of_read hs hr with hg | ⟨rfl, hheld, hmax⟩
          · rw [readFault_of_anyIo hg]
            exact Or.inl (by simp [faultKinds, Fault.kind])
          · exact Or.inr ⟨⟨hn, Or.inr ⟨hheld, hmax⟩⟩, by decide⟩
  · rw [if_neg hn] at hparse
    rw [read_text_of_error hparse] at h
    cases h
    exact Or.inl (by simp [faultKinds, Fault.kind])

theorem run_read_of_overlong (h : Overlong declared s) :
    ∃ f t, (read (.text declared)).run s = .error f t ∧ f.kind ∈ limitKinds := by
  obtain ⟨hn, hlimit⟩ := h
  have hparse := parseLength_eq declared
  rw [if_pos hn] at hparse
  by_cases hd : maxDigits < (trim declared).length
  · rw [if_pos hd] at hparse
    rw [read_text_of_error hparse]
    exact ⟨_, _, rfl, by simp [limitKinds, Fault.kind]⟩
  · obtain ⟨hheld, hmax⟩ := hlimit.resolve_left hd
    rw [if_neg hd] at hparse
    obtain ⟨t, ht⟩ := BodyStream.run_read_of_held hheld hmax
    have hne : ofDecimal (trim declared).toList ≠ 0 := by omega
    refine ⟨.indexLimit, t, ?_, by decide⟩
    rw [read_text hparse, run_readCounted hne, ht]
    rfl

end Body

end CloudEvents
