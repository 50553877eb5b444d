import CloudEvents.Proofs.Body.Declared
import Mathlib.Algebra.Order.Floor.Div

/-! Bodies without a declared length, read chunk after chunk to the end. -/
namespace CloudEvents.Body

variable {m : Nat} {source : Nat → List UInt8 → BodySource} {given : List (List UInt8)}
  {replies : List Reply}

/-- So many reads of a chunk after those made before. -/
def asking (reads : Array Nat) (count : Nat) : Array Nat := reads ++ Array.replicate count chunkSize

theorem asking_one (reads : Array Nat) : asking reads 1 = reads.push chunkSize := by
  simp [asking]

theorem asking_asking (reads : Array Nat) (a b : Nat) :
    asking (asking reads a) b = asking reads (a + b) := by
  simp [asking]

theorem asking_push (reads : Array Nat) (count : Nat) :
    asking (reads.push chunkSize) count = asking reads (count + 1) := by
  rw [← asking_one, asking_asking, Nat.add_comm]

/-- Holds of sources that give `m` bytes to a read of a chunk for as long as they have so many. With
`source i rest` the source is meant that gave `i` bytes and has `rest` left. -/
def Steady (m : Nat) (source : Nat → List UInt8 → BodySource) : Prop :=
  ∀ i rest reads, (BodyStream.read chunkSize).run ⟨source i rest, reads⟩ =
    .ok (some (rest.take m)) ⟨source (i + min m rest.length) (rest.drop m), reads.push chunkSize⟩

theorem steady_paced (k : Nat) : Steady (min chunkSize k) fun _ rest => .paced rest k :=
  fun _ _ _ => rfl

theorem steady_memory (position : Nat) :
    Steady chunkSize fun i rest => .memory rest (position + i) := by
  intro i rest reads
  have hindex : ¬ Fault.maxIndex < chunkSize := by decide
  simp only [BodyStream.read, EStateM.run, if_neg hindex, Nat.add_assoc]

theorem ceilDiv_of_pos {n : Nat} (hm : 0 < m) (hn : 0 < n) : n ⌈/⌉ m = (n - m) ⌈/⌉ m + 1 := by
  simp only [Nat.ceilDiv_eq_add_pred_div]
  by_cases h : n ≤ m
  · have hnone : (n - m + m - 1) / m = 0 := Nat.div_eq_of_lt (by omega)
    have hone : n + m - 1 = (n - 1) + m := by omega
    rw [hnone, hone, Nat.add_div_right _ hm, Nat.div_eq_of_lt (by omega)]
  · have hone : n + m - 1 = (n - m + m - 1) + m := by omega
    rw [hone, Nat.add_div_right _ hm]

/-- A steady source is read to its end: there is a read for each piece, and one more that gives
nothing. -/
theorem drain_steady (hs : Steady m source) (hm : 0 < m) (i : Nat) (rest : List UInt8)
    (reads : Array Nat) (chunks : List (List UInt8)) :
    drain chunks ⟨source i rest, reads⟩ = .ok (chunks.reverse.flatten ++ rest)
      ⟨source (i + rest.length) [], asking reads (rest.length ⌈/⌉ m + 1)⟩ := by
  cases rest with
  | nil =>
    have hread := hs i [] reads
    simp only [List.take_nil, List.drop_nil, List.length_nil, Nat.min_zero] at hread
    rw [drain_of_end hread rfl]
    simp [asking_one]
  | cons b bs =>
    have hread := hs i (b :: bs) reads
    rw [List.take_cons hm] at hread
    have hpos : 0 < (b :: bs).length := Nat.succ_pos _
    have hlength : i + min m (b :: bs).length + ((b :: bs).drop m).length =
        i + (b :: bs).length := by
      rw [List.length_drop]
      omega
    have hpieces : b :: bs.take (m - 1) ++ (b :: bs).drop m = b :: bs := by
      rw [← List.take_cons hm, List.take_append_drop]
    rw [drain_of_chunk hread, drain_steady hs hm, hlength, List.length_drop, asking_push,
      ← ceilDiv_of_pos hm hpos, List.reverse_cons, List.flatten_append, List.flatten_singleton,
      List.append_assoc, hpieces]
termination_by rest.length
decreasing_by
  simp only [List.length_drop, List.length_cons]
  omega

/-- Chunks that are given one by one are kept, whatever comes after them. -/
theorem drain_replies (hne : ∀ c ∈ given, c ≠ []) (chunks : List (List UInt8))
    (replies : List Reply) (reads : Array Nat) :
    drain chunks ⟨.scripted (given.map .chunk ++ replies), reads⟩ =
      drain (given.reverse ++ chunks) ⟨.scripted replies, asking reads given.length⟩ := by
  induction given generalizing chunks reads with
  | nil => simp [asking]
  | cons c r ih =>
    obtain ⟨b, bs, rfl⟩ := List.exists_cons_of_ne_nil (hne c List.mem_cons_self)
    have hread : (BodyStream.read chunkSize).run
        ⟨.scripted (((b :: bs) :: r).map .chunk ++ replies), reads⟩ =
          .ok (some (b :: bs)) ⟨.scripted (r.map .chunk ++ replies), reads.push chunkSize⟩ := rfl
    rw [drain_of_chunk hread, ih fun c hc => hne c (List.mem_cons_of_mem _ hc), asking_push]
    simp

theorem run_read_null (s : BodyStream) : (read .null).run s = drain [] s := rfl

/-- Holds of a script when the next read gives nothing. -/
inductive Spent : List Reply → Prop
  | done : Spent []
  | nothing (r : List Reply) : Spent (.nothing :: r)
  | empty (r : List Reply) : Spent (.chunk [] :: r)

theorem drain_of_spent (hs : Spent replies) (chunks : List (List UInt8)) (reads : Array Nat) :
    drain chunks ⟨.scripted replies, reads⟩ =
      .ok chunks.reverse.flatten ⟨.scripted replies.tail, asking reads 1⟩ := by
  rw [asking_one]
  cases hs with
  | done =>
    have hread : (BodyStream.read chunkSize).run ⟨.scripted [], reads⟩ =
        .ok (some []) ⟨.scripted [], reads.push chunkSize⟩ := rfl
    exact drain_of_end hread rfl
  | nothing r =>
    have hread : (BodyStream.read chunkSize).run ⟨.scripted (.nothing :: r), reads⟩ =
        .ok none ⟨.scripted r, reads.push chunkSize⟩ := rfl
    exact drain_of_end hread rfl
  | empty r =>
    have hread : (BodyStream.read chunkSize).run ⟨.scripted (.chunk [] :: r), reads⟩ =
        .ok (some []) ⟨.scripted r, reads.push chunkSize⟩ := rfl
    exact drain_of_end hread rfl

/-- A script gives chunks first, and then nothing or a fault. -/
theorem exists_chunks (replies : List Reply) :
    ∃ (given : List (List UInt8)) (rest : List Reply), replies = given.map .chunk ++ rest ∧
      (∀ c ∈ given, c ≠ []) ∧ (Spent rest ∨ ∃ f r, rest = .fault f :: r) := by
  induction replies with
  | nil => exact ⟨[], [], rfl, by simp, Or.inl .done⟩
  | cons reply r ih =>
    rcases reply with c | _ | f
    · by_cases hc : c = []
      · subst hc
        exact ⟨[], _, rfl, by simp, Or.inl (.empty r)⟩
      · obtain ⟨given, rest, rfl, hne, hrest⟩ := ih
        refine ⟨c :: given, rest, rfl, ?_, hrest⟩
        intro d hd
        rcases List.mem_cons.1 hd with rfl | hd
        · exact hc
        · exact hne d hd
    · exact ⟨[], _, rfl, by simp, Or.inl (.nothing r)⟩
    · exact ⟨[], _, rfl, by simp, Or.inr ⟨f, r, rfl⟩⟩

/-- Every read of a body without a declared length asks for a chunk. Up to the first that gives
nothing the chunks are kept, in order, and a fault before that leaves none of them. However few
bytes come at a time, all of them are read. -/
theorem read_to_end (reads : Array Nat) :
    (∀ replies, ∃ (given : List (List UInt8)) (rest : List Reply),
      replies = given.map .chunk ++ rest ∧ (∀ c ∈ given, c ≠ []) ∧
      (Spent rest ∧ (read .null).run ⟨.scripted replies, reads⟩ =
          .ok given.flatten
            ⟨.scripted rest.tail, reads ++ Array.replicate (given.length + 1) 65536⟩ ∨
        ∃ f r, rest = .fault f :: r ∧ (read .null).run ⟨.scripted replies, reads⟩ =
          .error (if f.kind.belongsTo .anyIo then .bodyUnread f else f)
            ⟨.scripted r, reads ++ Array.replicate (given.length + 1) 65536⟩)) ∧
    ∀ bytes k, 1 ≤ k → (read .null).run ⟨.paced bytes k, reads⟩ =
      .ok bytes
        ⟨.paced [] k, reads ++ Array.replicate (bytes.length ⌈/⌉ min k 65536 + 1) 65536⟩ := by
  constructor
  · intro replies
    obtain ⟨given, rest, rfl, hne, hrest⟩ := exists_chunks replies
    refine ⟨given, rest, rfl, hne, ?_⟩
    rw [run_read_null, drain_replies hne, List.append_nil]
    rcases hrest with hspent | ⟨f, r, rfl⟩
    · left
      refine ⟨hspent, ?_⟩
      rw [drain_of_spent hspent, asking_asking, List.reverse_reverse]
      rfl
    · right
      refine ⟨f, r, rfl, ?_⟩
      rw [drain_of_error (f := f) rfl, ← asking_one, asking_asking]
      rfl
  · intro bytes k hk
    have hpos : 0 < min chunkSize k := by
      simp only [chunkSize]
      omega
    have hdrain := drain_steady (steady_paced k) hpos 0 bytes reads []
    rwa [Nat.min_comm] at hdrain

/-- A payload of two whole chunks takes a third read to come to its end. -/
theorem read_to_end_whole : (1 : Nat) ≤ 100000 ∧
    (read .null).run ⟨.paced (List.replicate 131072 0) 100000, #[]⟩ =
      .ok (List.replicate 131072 0) ⟨.paced [] 100000, #[65536, 65536, 65536]⟩ := by
  have hpaced := (read_to_end #[]).2 (List.replicate 131072 0) 100000 (by decide)
  rw [List.length_replicate] at hpaced
  exact ⟨by decide, hpaced⟩

end CloudEvents.Body
