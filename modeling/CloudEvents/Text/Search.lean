/-! Texts inside texts, and readers that take something from the front of a text. -/
namespace CloudEvents.Text

variable {n : Nat} {p : Char → Bool} {c : Char} {cs l rest : List Char}

/-- Whether `sub` is written somewhere in the list, all of it and without gaps. -/
def occursIn (sub : List Char) : List Char → Bool
  | [] => sub.isEmpty
  | c :: r => sub.isPrefixOf (c :: r) || occursIn sub r

/-- What follows `lead` in a text that starts with it. -/
def after? (lead s : String) : Option String :=
  if lead.toList.isPrefixOf s.toList then
    some (String.ofList (s.toList.drop lead.toList.length))
  else none

/-- The pieces between the separators; there is always one more piece than there are separators. -/
def splitAt (sep : Char) : List Char → List (List Char)
  | [] => [[]]
  | c :: r =>
    if c = sep then [] :: splitAt sep r
    else match splitAt sep r with
      | [] => [[c]]
      | p :: ps => (c :: p) :: ps

theorem occursIn_iff {sub l : List Char} : occursIn sub l ↔ sub <:+: l := by
  induction l with
  | nil => simp [occursIn]
  | cons c r ih => simp [occursIn, ih, List.infix_cons_iff]

theorem splitAt_eq_splitOn (sep : Char) (l : List Char) : splitAt sep l = l.splitOn sep := by
  induction l with
  | nil => simp [splitAt]
  | cons c r ih =>
    rw [splitAt, ih, List.splitOn_cons_eq_if_modifyHead]
    by_cases hc : c = sep
    · simp [hc]
    · have hne := List.splitOn_ne_nil sep r
      cases hr : r.splitOn sep with
      | nil => exact absurd hr hne
      | cons p ps => simp [hc]

theorem after?_append (lead s : String) : after? lead (lead ++ s) = some s := by
  simp [after?, String.toList_append]

theorem after?_eq_some_iff {lead s rest : String} :
    after? lead s = some rest ↔ s = lead ++ rest := by
  constructor
  · intro h
    unfold after? at h
    split at h
    next hp =>
      obtain ⟨t, ht⟩ := List.isPrefixOf_iff_prefix.1 hp
      rw [← ht, List.drop_left, Option.some.injEq] at h
      rw [← h, ← String.toList_inj, String.toList_append, String.toList_ofList, ht]
    next => simp at h
  · rintro rfl
    exact after?_append lead rest

/-- Takes exactly `n` characters of a class. -/
def field (n : Nat) (p : Char → Bool) (cs : List Char) : Option (List Char × List Char) :=
  if (cs.take n).length = n ∧ (cs.take n).all p then some (cs.take n, cs.drop n) else none

/-- Takes the character `c`. -/
def mark (c : Char) : List Char → Option (List Char)
  | d :: r => if d = c then some r else none
  | [] => none

theorem field_eq_some_iff :
    field n p cs = some (l, rest) ↔ cs = l ++ rest ∧ l.length = n ∧ l.all p := by
  unfold field
  constructor
  · intro h
    split at h
    next hp =>
      simp only [Option.some.injEq, Prod.mk.injEq] at h
      obtain ⟨rfl, rfl⟩ := h
      exact ⟨(List.take_append_drop n cs).symm, hp⟩
    next => simp at h
  · rintro ⟨rfl, rfl, hp⟩
    simp only [List.take_left, List.drop_left, true_and, hp, if_true]

theorem mark_eq_some_iff : mark c cs = some rest ↔ cs = c :: rest := by
  cases cs with
  | nil => simp [mark]
  | cons d r => simp [mark]

theorem mark_cons (c : Char) (rest : List Char) : mark c (c :: rest) = some rest :=
  mark_eq_some_iff.2 rfl

end CloudEvents.Text
