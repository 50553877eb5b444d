import CloudEvents.Trace.State

/-! Trace states that are written and read again. -/
namespace CloudEvents.TraceState

open Text

variable {cs key value : List Char} {c : Char} {n : Nat} {first : Char → Bool} {t : TraceState}
  {m : String × String} {pieces : List (List Char)}

/-- A character that a key may start with. -/
def isFirst (c : Char) : Bool := isLower c || c.isDigit

theorem splitAt_intercalate {sep : Char} (h : ∀ p ∈ pieces, sep ∉ p) (hne : pieces ≠ []) :
    splitAt sep ([sep].intercalate pieces) = pieces := by
  rw [splitAt_eq_splitOn, List.splitOn_intercalate sep h hne]

theorem intercalate_splitAt (sep : Char) (cs : List Char) :
    [sep].intercalate (splitAt sep cs) = cs := by
  rw [splitAt_eq_splitOn, List.intercalate_splitOn]

theorem isKeyChar_of_isFirst (h : isFirst c) : isKeyChar c := by
  rw [isKeyChar, Bool.or_eq_true]
  exact Or.inl h

/-- A name is made of the characters of keys, of which only some may come first. -/
theorem of_isName (hfirst : ∀ c, first c → isFirst c) (h : isName first n cs) :
    (∃ c r, cs = c :: r ∧ isFirst c) ∧ ∀ d ∈ cs, isKeyChar d := by
  cases cs with
  | nil => simp [isName] at h
  | cons c r =>
    simp only [isName, Bool.and_eq_true, List.all_eq_true] at h
    have hc := hfirst c h.1.1
    refine ⟨⟨c, r, rfl, hc⟩, ?_⟩
    rw [List.forall_mem_cons]
    exact ⟨isKeyChar_of_isFirst hc, h.2⟩

theorem of_isKey (h : isKey key) :
    (∃ c r, key = c :: r ∧ isFirst c) ∧ ∀ d ∈ key, isKeyChar d ∨ d = '@' := by
  have hlower : ∀ c, isLower c → isFirst c := fun c hc => by rw [isFirst, hc, Bool.true_or]
  have hjoin := intercalate_splitAt '@' key
  rw [isKey] at h
  split at h
  next name hs =>
    obtain ⟨hstart, hall⟩ := of_isName hlower h
    rw [hs, List.intercalate_singleton] at hjoin
    rw [← hjoin]
    exact ⟨hstart, fun d hd => Or.inl (hall d hd)⟩
  next tenant system hs =>
    rw [Bool.and_eq_true] at h
    obtain ⟨⟨c, r, rfl, hc⟩, htenant⟩ := of_isName (fun c hc => hc) h.1
    obtain ⟨-, hsystem⟩ := of_isName hlower h.2
    have hkey : key = c :: r ++ '@' :: system := by
      rw [← hjoin, hs]
      simp
    rw [hkey]
    refine ⟨⟨c, r ++ '@' :: system, rfl, hc⟩, ?_⟩
    intro d hd
    rcases List.mem_append.1 hd with ht | hrest
    · exact Or.inl (htenant d ht)
    · rcases List.mem_cons.1 hrest with rfl | hs
      · exact Or.inr rfl
      · exact Or.inl (hsystem d hs)
  next => cases h

theorem isPad_of_isFirst (h : isFirst c) : isPad c = false := by
  have hspace : isFirst ' ' = false := by decide
  have htab : isFirst '\t' = false := by decide
  cases hp : isPad c with
  | false => rfl
  | true =>
    simp only [isPad, Bool.or_eq_true, decide_eq_true_eq] at hp
    rcases hp with rfl | rfl
    · rw [hspace] at h
      cases h
    · rw [htab] at h
      cases h

/-- What stands between members, or in the middle of one, is no part of a key. -/
theorem notMem_of_isKey (h : isKey key) : ',' ∉ key ∧ '=' ∉ key := by
  have hall := (of_isKey h).2
  exact ⟨fun hc => absurd (hall _ hc) (by decide), fun hc => absurd (hall _ hc) (by decide)⟩

theorem notMem_of_isValue (h : isValue value) : ',' ∉ value ∧ '=' ∉ value := by
  simp only [isValue, Bool.and_eq_true, List.all_eq_true] at h
  have hall := h.1.2
  exact ⟨fun hc => absurd (hall _ hc) (by decide), fun hc => absurd (hall _ hc) (by decide)⟩

/-- A value ends in a character that is no padding. -/
theorem of_isValue (h : isValue value) :
    ∃ r c, value = r ++ [c] ∧ isPad c = false := by
  simp only [isValue, Bool.and_eq_true, List.all_eq_true, bne_iff_ne] at h
  obtain ⟨⟨⟨hne, -⟩, hall⟩, hlast⟩ := h
  refine ⟨value.dropLast, value.getLast hne, (List.dropLast_concat_getLast hne).symm, ?_⟩
  rw [List.getLast?_eq_some_getLast hne] at hlast
  have hspace : value.getLast hne ≠ ' ' := fun hs => hlast (congrArg some hs)
  have htab : value.getLast hne ≠ '\t' := fun ht =>
    absurd (ht ▸ hall _ (List.getLast_mem hne)) (by decide)
  simp [isPad, hspace, htab]

/-- One member as text. -/
def memberText (m : String × String) : List Char := m.1.toList ++ '=' :: m.2.toList

theorem toList_write (t : TraceState) :
    (write t).toList = [','].intercalate (t.map memberText) := by
  rw [write, String.toList_intercalate, List.map_map]
  congr 1
  exact List.map_congr_left fun m _ => by simp [memberText]

theorem comma_notMem_memberText (h : isMember m) : ',' ∉ memberText m := by
  rw [isMember, Bool.and_eq_true] at h
  have hkey := (notMem_of_isKey h.1).1
  have hvalue := (notMem_of_isValue h.2).1
  simp [memberText, hkey, hvalue]

theorem dropWhile_memberText (h : isMember m) : (memberText m).dropWhile isPad = memberText m := by
  rw [isMember, Bool.and_eq_true] at h
  obtain ⟨⟨c, r, hkey, hc⟩, -⟩ := of_isKey h.1
  rw [memberText, hkey, List.cons_append,
    List.dropWhile_cons_of_neg (by rw [isPad_of_isFirst hc]; exact Bool.false_ne_true)]

theorem dropPadEnd_memberText (h : isMember m) : dropPadEnd (memberText m) = memberText m := by
  rw [isMember, Bool.and_eq_true] at h
  obtain ⟨r, c, hvalue, hc⟩ := of_isValue h.2
  have htext : memberText m = (m.1.toList ++ '=' :: r) ++ [c] := by simp [memberText, hvalue]
  rw [htext, dropPadEnd, List.reverse_concat,
    List.dropWhile_cons_of_neg (by rw [hc]; exact Bool.false_ne_true), ← List.reverse_concat,
    List.reverse_reverse]

theorem readMember_memberText (h : isMember m) : readMember (memberText m) = some m := by
  have hpad := dropPadEnd_memberText h
  rw [isMember, Bool.and_eq_true] at h
  have hequals : ∀ p ∈ [m.1.toList, m.2.toList], '=' ∉ p := by
    simp [(notMem_of_isKey h.1).2, (notMem_of_isValue h.2).2]
  have hsplit : splitAt '=' (memberText m) = [m.1.toList, m.2.toList] := by
    have hjoin := splitAt_intercalate hequals (by simp)
    rwa [List.intercalate_cons_cons, List.intercalate_singleton, List.append_assoc] at hjoin
  simp only [readMember, hpad, hsplit, h.1, h.2, Bool.and_self, if_true, String.ofList_toList]

/-- There is nothing to remove around members. -/
theorem unpad_map_memberText (h : ∀ m ∈ t, isMember m) :
    unpad (t.map memberText) = t.map memberText := by
  induction t with
  | nil => rw [List.map_nil, unpad]
  | cons m t ih =>
    cases t with
    | nil => rw [List.map_singleton, unpad]
    | cons k t =>
      have hm := h m (by simp)
      have hk := h k (by simp)
      have hrest := ih fun p hp => h p (by simp [hp])
      rw [List.map_cons, List.map_cons, unpad, dropPadEnd_memberText hm, dropWhile_memberText hk]
      exact congrArg _ hrest

theorem mapM_readMember (h : ∀ m ∈ t, isMember m) :
    (t.map memberText).mapM readMember = some t := by
  induction t with
  | nil => rfl
  | cons m t ih =>
    rw [List.forall_mem_cons] at h
    simp [readMember_memberText h.1, ih h.2]

/-- Reading gives the members that were written, in their order. -/
theorem read_write (h : Valid t) : read (write t) = t := by
  obtain ⟨hlength, hkeys, hmembers⟩ := h
  have hpieces : (unpad (splitAt ',' (write t).toList)).filter (· != []) = t.map memberText := by
    cases t with
    | nil => simp [write, splitAt, unpad]
    | cons m t =>
      have hcomma : ∀ p ∈ (m :: t).map memberText, ',' ∉ p := by
        rintro p hp
        obtain ⟨k, hk, rfl⟩ := List.mem_map.1 hp
        exact comma_notMem_memberText (hmembers k hk)
      rw [toList_write, splitAt_intercalate hcomma (by simp), unpad_map_memberText hmembers,
        List.filter_eq_self]
      rintro p hp
      obtain ⟨k, -, rfl⟩ := List.mem_map.1 hp
      simp [memberText]
  simp only [read, hpieces, mapM_readMember hmembers, hkeys, hlength, and_self, if_true]

end CloudEvents.TraceState
