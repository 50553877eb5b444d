import CloudEvents.Listener.Settings
import CloudEvents.Proofs.Text.Uppercase

/-! How settings come about, and whom the allow-list lets through. -/
namespace CloudEvents

open Text

variable {given : GivenSettings} {names : List String} {env : Environment} {s : Settings}
  {m : String}

/-- Holds of settings that are given methods by these names, be it as texts or as the characters of
one text. No names are given by an empty list, and by no list. -/
def GivenSettings.Lists (given : GivenSettings) (names : List String) : Prop :=
  (given.allowedMethods.map MethodList.toList).getD [] = names.map .text

theorem GivenSettings.lists_each (h : given.allowedMethods = some (.each (names.map .text))) :
    given.Lists names := by
  rw [Lists, h]
  rfl

theorem GivenSettings.lists_characters (text : String)
    (h : given.allowedMethods = some (.characters text)) :
    given.Lists (text.toList.map fun c => .ofList [c]) := by
  rw [Lists, h, List.map_map]
  rfl

namespace Settings

theorem normalizeMethod_eq_empty_iff : normalizeMethod m = "" ↔ trim m = "" :=
  uppercase_eq_empty_iff

theorem trim_normalizeMethod (m : String) : trim (normalizeMethod m) = normalizeMethod m := by
  rw [normalizeMethod, trim_uppercase, trim_trim]

theorem uppercase_normalizeMethod (m : String) :
    uppercase (normalizeMethod m) = normalizeMethod m :=
  uppercase_uppercase _

@[simp] theorem normalizeMethod_normalizeMethod (m : String) :
    normalizeMethod (normalizeMethod m) = normalizeMethod m := by
  rw [normalizeMethod, trim_normalizeMethod, uppercase_normalizeMethod]

theorem mapM_methodEntry (l : List String) :
    (l.map Scalar.text).mapM methodEntry = .ok (l.map normalizeMethod) := by
  induction l with
  | nil => rfl
  | cons m r ih =>
    rw [List.map_cons, List.mapM_cons, methodEntry_text, ih]
    rfl

/-- The methods that a text lists between commas. A blank piece lists none. -/
def listed (text : String) : List String :=
  ((splitAt ',' text.toList).map fun p => normalizeMethod (.ofList p)).filter (· ≠ "")

/-- The methods to allow: those that are given, else those that the environment lists, else the
usual ones. -/
def preferredMethods (names : List String) (env : Environment) : List String :=
  if names ≠ [] then names.map normalizeMethod
  else if listed ((env methodsVariable).getD "") ≠ [] then listed ((env methodsVariable).getD "")
  else defaultMethods

theorem normalizeMethod_ofList (p : List Char) :
    normalizeMethod (.ofList p) = uppercase (.ofList (trimChars p)) := by
  rw [normalizeMethod, trim, String.toList_ofList]

/-- The pieces that are not blank are the ones that list a method. -/
theorem map_normalizeMethod_filter (pieces : List String) :
    (pieces.filter fun m => !allBlank m).map normalizeMethod =
      (pieces.map normalizeMethod).filter (· ≠ "") := by
  rw [List.filter_map]
  refine congrArg (List.map normalizeMethod) (List.filter_congr fun m _ => ?_)
  have hempty : normalizeMethod m = "" ↔ allBlank m :=
    normalizeMethod_eq_empty_iff.trans trim_eq_empty_iff
  simp [Function.comp_apply, hempty]

/-- It makes no difference that the text is trimmed before it is cut. -/
theorem filter_pieces (text : String) :
    ((((splitAt ',' (trim text).toList).map String.ofList).filter fun m => !allBlank m).map
      normalizeMethod) = listed text := by
  have hcomma : isBlank ',' = false := by decide
  have hpieces : (splitAt ',' (trimChars text.toList)).map (fun p => normalizeMethod (.ofList p)) =
      (splitAt ',' text.toList).map fun p => normalizeMethod (.ofList p) := by
    have htrim := congrArg (List.map fun p => uppercase (.ofList p))
      (map_trimChars_splitAt hcomma text.toList)
    simpa only [List.map_map, Function.comp_def, ← normalizeMethod_ofList] using htrim
  rw [map_normalizeMethod_filter, List.map_map, toList_trim, listed, ← hpieces]
  rfl

theorem map_normalizeMethod_defaultMethods :
    defaultMethods.map normalizeMethod = defaultMethods := by
  decide

theorem map_normalizeMethod_environmentMethods (env : Environment) :
    (environmentMethods env).map normalizeMethod = preferredMethods [] env := by
  have hlisted := filter_pieces ((env methodsVariable).getD "")
  have hsame : ¬([] : List String) ≠ [] := fun h => h rfl
  rw [preferredMethods, if_neg hsame, ← hlisted, environmentMethods]
  split
  next hnone => rw [hnone, List.map_nil, if_neg hsame, map_normalizeMethod_defaultMethods]
  next hsome => rw [if_pos (mt List.map_eq_nil_iff.1 hsome)]

theorem preferredMethods_ne_nil (names : List String) (env : Environment) :
    preferredMethods names env ≠ [] := by
  unfold preferredMethods
  split
  next hnames => exact mt List.map_eq_nil_iff.1 hnames
  next =>
    split
    next hlisted => exact hlisted
    next => exact List.cons_ne_nil _ _

/-- A method that is allowed is one that is given, or else it has a name. -/
theorem mem_preferredMethods_cases (hm : m ∈ preferredMethods names env) :
    ∃ n, m = normalizeMethod n ∧ (n ∈ names ∨ m ≠ "") := by
  unfold preferredMethods at hm
  split at hm
  · obtain ⟨n, hn, rfl⟩ := List.mem_map.1 hm
    exact ⟨n, rfl, Or.inl hn⟩
  · split at hm
    · obtain ⟨hpiece, hne⟩ := List.mem_filter.1 hm
      obtain ⟨p, -, rfl⟩ := List.mem_map.1 hpiece
      exact ⟨.ofList p, rfl, Or.inr (by simpa using hne)⟩
    · rw [← map_normalizeMethod_defaultMethods] at hm
      obtain ⟨n, hn, rfl⟩ := List.mem_map.1 hm
      have hpost : n = "POST" := List.mem_singleton.1 hn
      exact ⟨n, rfl, Or.inr (by rw [hpost]; decide)⟩

/-- A method that is allowed is as the allow-list would have it. -/
theorem normalizeMethod_of_mem (hm : m ∈ preferredMethods names env) : normalizeMethod m = m := by
  obtain ⟨n, rfl, -⟩ := mem_preferredMethods_cases hm
  exact normalizeMethod_normalizeMethod n

/-- Methods that are allowed are allowed again when they are what is given. -/
theorem preferredMethods_preferredMethods (names : List String) (env env' : Environment) :
    preferredMethods (preferredMethods names env) env' = preferredMethods names env := by
  rw [preferredMethods, if_pos (preferredMethods_ne_nil names env)]
  exact (List.map_congr_left fun m hm => normalizeMethod_of_mem hm).trans (List.map_id _)

/-- No method without a name comes of the environment. -/
theorem empty_mem_preferredMethods_iff :
    "" ∈ preferredMethods names env ↔ ∃ m ∈ names, trim m = "" := by
  constructor
  · intro hmem
    obtain ⟨n, hn, hgiven | hne⟩ := mem_preferredMethods_cases hmem
    · exact ⟨n, hgiven, normalizeMethod_eq_empty_iff.1 hn.symm⟩
    · exact absurd rfl hne
  · rintro ⟨m, hm, hempty⟩
    rw [preferredMethods, if_pos (List.ne_nil_of_mem hm)]
    exact List.mem_map.2 ⟨m, hm, normalizeMethod_eq_empty_iff.2 hempty⟩

theorem mapM_methodEntry_preferred (names : List String) (env : Environment) :
    (if names.map Scalar.text = [] then (environmentMethods env).map .text
      else names.map .text).mapM methodEntry = .ok (preferredMethods names env) := by
  by_cases hnames : names = []
  · rw [hnames, List.map_nil, if_pos rfl, mapM_methodEntry, map_normalizeMethod_environmentMethods]
  · rw [if_neg (mt List.map_eq_nil_iff.1 hnames), mapM_methodEntry, preferredMethods,
      if_pos hnames]

/-- What comes of the settings that are given. -/
theorem resolve_eq (h : given.Lists names) (env : Environment) : resolve given env =
    if ∃ m ∈ names, trim m = "" then .error .emptyMethodName
    else .ok {
      allowedMethods := preferredMethods names env
      requireBody := given.requireBody.getD false || isOn env requireBodyVariable
      rejectInvalid := given.rejectInvalid.getD false || isOn env rejectInvalidVariable
      tracerName := given.tracerName.getD defaultTracer } := by
  unfold GivenSettings.Lists at h
  rw [resolve, h]
  simp only [mapM_methodEntry_preferred]
  by_cases hexists : ∃ m ∈ names, trim m = ""
  · have hcontains : (preferredMethods names env).contains "" :=
      List.contains_iff_mem.2 (empty_mem_preferredMethods_iff.2 hexists)
    rw [if_pos hexists]
    simp only [bind, Except.bind, hcontains, if_true]
    rfl
  · have hcontains : (preferredMethods names env).contains "" = false := by
      rw [← Bool.not_eq_true, List.contains_iff_mem, empty_mem_preferredMethods_iff]
      exact hexists
    rw [if_neg hexists]
    simp only [bind, Except.bind, hcontains]
    rfl

theorem resolve_eq_error_iff (h : given.Lists names) {f : Fault} :
    resolve given env = .error f ↔ f = .emptyMethodName ∧ ∃ m ∈ names, trim m = "" := by
  rw [resolve_eq h]
  split
  next hexists => rw [and_iff_left hexists, Except.error.injEq, eq_comm]
  next hnone => exact iff_of_false nofun fun hf => hnone hf.2

theorem exists_resolve_iff (h : given.Lists names) (env : Environment) :
    (∃ s, resolve given env = .ok s) ↔ ∀ m ∈ names, trim m ≠ "" := by
  rw [resolve_eq h]
  split
  next hexists =>
    obtain ⟨m, hm, hempty⟩ := hexists
    simpa using ⟨m, hm, hempty⟩
  next hnone => simpa using hnone

/-- The parts of what comes about, one by one. -/
theorem resolve_parts (h : given.Lists names) (hs : resolve given env = .ok s) :
    s.allowedMethods = preferredMethods names env ∧
    s.requireBody = (given.requireBody.getD false || isOn env requireBodyVariable) ∧
    s.rejectInvalid = (given.rejectInvalid.getD false || isOn env rejectInvalidVariable) ∧
    s.tracerName = given.tracerName.getD defaultTracer := by
  rw [resolve_eq h] at hs
  split at hs
  · cases hs
  · cases hs
    exact ⟨rfl, rfl, rfl, rfl⟩

/-- A switch as it is given, else as the environment has it. One that is not set there is off. -/
def preferredSwitch (given : Option Bool) (env : Environment) (name : String) : Bool :=
  given.getD (isOn env name)

theorem or_isOn_eq_preferredSwitch_iff (given : Option Bool) (env : Environment) (name : String) :
    (given.getD false || isOn env name) = preferredSwitch given env name ↔
      ¬ (given = some false ∧ isOn env name) := by
  rw [preferredSwitch]
  cases given with
  | none => simp
  | some b => cases b <;> simp

/-- What is given is what counts: methods if there are any, each as the allow-list has it, a switch
whichever way it is given, and the name of the tracer. What is not given is taken from the
environment, and else is as usual. The one exception is a switch that is given as off while the
environment has it on. -/
theorem resolve_prefers (h : given.Lists names) (env : Environment) :
    ((∃ s, resolve given env = .ok s) ↔ ∀ m ∈ names, trim m ≠ "") ∧
    ∀ s, resolve given env = .ok s →
      s.allowedMethods = preferredMethods names env ∧
      s.tracerName = given.tracerName.getD defaultTracer ∧
      (s.requireBody = preferredSwitch given.requireBody env requireBodyVariable ↔
        ¬ (given.requireBody = some false ∧ isOn env requireBodyVariable)) ∧
      (s.rejectInvalid = preferredSwitch given.rejectInvalid env rejectInvalidVariable ↔
        ¬ (given.rejectInvalid = some false ∧ isOn env rejectInvalidVariable)) := by
  refine ⟨exists_resolve_iff h env, fun s hs => ?_⟩
  obtain ⟨hmethods, hbody, hinvalid, htracer⟩ := resolve_parts h hs
  rw [hbody, hinvalid]
  exact ⟨hmethods, htracer, or_isOn_eq_preferredSwitch_iff _ _ _,
    or_isOn_eq_preferredSwitch_iff _ _ _⟩

/-- An environment in which one variable is set. -/
def oneVariable (name value : String) : Environment :=
  fun n => if n = name then some value else none

/-- Two methods, in small letters and with blanks around one, and a switch given as on. -/
def givenPosted : GivenSettings where
  allowedMethods := some (.each [.text "post", .text " put "])
  requireBody := some true

theorem resolve_prefers_posted :
    givenPosted.Lists ["post", " put "] ∧ (∀ m ∈ ["post", " put "], trim m ≠ "") ∧
    ∃ s, resolve givenPosted (oneVariable methodsVariable "GET") = .ok s ∧
      s.allowedMethods = ["POST", "PUT"] ∧ s.requireBody ∧ s.rejectInvalid = false := by
  have hlists : givenPosted.Lists ["post", " put "] := GivenSettings.lists_each rfl
  have hnames : ∀ m ∈ ["post", " put "], trim m ≠ "" := by decide
  obtain ⟨hok, hparts⟩ := resolve_prefers hlists (oneVariable methodsVariable "GET")
  obtain ⟨s, hs⟩ := hok.2 hnames
  obtain ⟨hmethods, -, hbody, hinvalid⟩ := hparts s hs
  have hupper : preferredMethods ["post", " put "] (oneVariable methodsVariable "GET") =
    ["POST", "PUT"] := by decide
  refine ⟨hlists, hnames, s, hs, hmethods.trans hupper, hbody.2 (fun hoff => ?_),
    hinvalid.2 fun hoff => ?_⟩
  · cases hoff.1
  · cases hoff.1

/-- A switch that is given as off is on if the environment has it on. -/
theorem resolve_otherwise_off :
    resolve { requireBody := some false } (oneVariable requireBodyVariable "1") = .ok {
      allowedMethods := ["POST"], requireBody := true, rejectInvalid := false,
      tracerName := .text "celistener" } ∧
    preferredSwitch (some false) (oneVariable requireBodyVariable "1") requireBodyVariable =
      false := by
  constructor <;> decide

theorem checkMethod_text (s : Settings) (m : String) : s.checkMethod (.text m) =
    if m ∈ s.allowedMethods then .ok () else .error (.unsupportedMethod (.text m)) := by
  have hmem : Scalar.text m ∈ s.allowedMethods.map .text ↔ m ∈ s.allowedMethods :=
    List.mem_map_of_injective fun _ _ h => Scalar.text.inj h
  simp only [checkMethod, hmem]

theorem checkMethod_text_iff : s.checkMethod (.text m) = .ok () ↔ m ∈ s.allowedMethods := by
  rw [checkMethod_text]
  split
  next hin => exact iff_of_true rfl hin
  next hout => exact iff_of_false nofun hout

/-- Settings come about unless a method is given that is blank, whatever the environment says.
The methods that they allow are some, in the order in which they are listed, and each has a name,
has no blanks around it and is its own uppercase form. Given again, they stay what they are. A
method is let through exactly if it is one of them to the letter, so that none with a lowercase
letter is. -/
theorem resolve_allows (h : given.Lists names) (env : Environment) :
    (∀ f, resolve given env = .error f ↔ f = .emptyMethodName ∧ ∃ m ∈ names, trim m = "") ∧
    Fault.emptyMethodName.kind.belongsTo .anyValue ∧
    ((∀ m ∈ names, trim m ≠ "") → ∃ s, resolve given env = .ok s ∧
      s.allowedMethods ≠ [] ∧ s.allowedMethods = preferredMethods names env ∧
      (∀ m ∈ s.allowedMethods, m ≠ "" ∧ trim m = m ∧ uppercase m = m) ∧
      (∀ (again : GivenSettings) env',
        again.allowedMethods = some (.each (s.allowedMethods.map .text)) →
          ∃ t, resolve again env' = .ok t ∧ t.allowedMethods = s.allowedMethods) ∧
      (∀ m, s.checkMethod (.text m) = .ok () ↔ m ∈ s.allowedMethods) ∧
      ∀ m : String, (∃ c ∈ m.toList, c.isLower) →
        s.checkMethod (.text m) = .error (.unsupportedMethod (.text m))) := by
  refine ⟨fun f => resolve_eq_error_iff h, by decide, fun hnames => ?_⟩
  obtain ⟨s, hs⟩ := (exists_resolve_iff h env).2 hnames
  obtain ⟨hmethods, -⟩ := resolve_parts h hs
  have hnormal : ∀ m ∈ s.allowedMethods, m ≠ "" ∧ trim m = m ∧ uppercase m = m := by
    intro m hm
    rw [hmethods] at hm
    have hself := normalizeMethod_of_mem hm
    refine ⟨?_, ?_, ?_⟩
    · rintro rfl
      obtain ⟨n, hn, hempty⟩ := empty_mem_preferredMethods_iff.1 hm
      exact hnames n hn hempty
    · rw [← hself, trim_normalizeMethod]
    · rw [← hself, uppercase_normalizeMethod]
  refine ⟨s, hs, hmethods ▸ preferredMethods_ne_nil names env, hmethods, hnormal, ?_,
    fun m => checkMethod_text_iff, ?_⟩
  · intro again env' hagain
    have hlists : again.Lists s.allowedMethods := GivenSettings.lists_each hagain
    have htrim : ∀ m ∈ s.allowedMethods, trim m ≠ "" := by
      intro m hm
      obtain ⟨hnonempty, hself, -⟩ := hnormal m hm
      rwa [hself]
    obtain ⟨t, ht⟩ := (exists_resolve_iff hlists env').2 htrim
    obtain ⟨hsame, -⟩ := resolve_parts hlists ht
    refine ⟨t, ht, ?_⟩
    rw [hsame, hmethods, preferredMethods_preferredMethods]
  · rintro m ⟨c, hc, hlower⟩
    have hnot : m ∉ s.allowedMethods := by
      intro hm
      have hsmall := isLower_eq_false_of_mem (hnormal m hm).2.2 hc
      rw [hlower] at hsmall
      cases hsmall
    rw [checkMethod_text, if_neg hnot]

/-- A text that is given stands for its characters. -/
def givenSpelled : GivenSettings where
  allowedMethods := some (.characters "pG")

theorem resolve_allows_spelled :
    givenSpelled.Lists ["p", "G"] ∧ (∀ m ∈ ["p", "G"], trim m ≠ "") ∧
    ∃ s, resolve givenSpelled (oneVariable methodsVariable " , ") = .ok s ∧
      s.allowedMethods = ["P", "G"] ∧ s.checkMethod (.text "P") = .ok () ∧
      s.checkMethod (.text "p") = .error (.unsupportedMethod (.text "p")) := by
  have hlists : givenSpelled.Lists ["p", "G"] := GivenSettings.lists_characters "pG" rfl
  have hnames : ∀ m ∈ ["p", "G"], trim m ≠ "" := by decide
  obtain ⟨-, -, hok⟩ := resolve_allows hlists (oneVariable methodsVariable " , ")
  obtain ⟨s, hs, -, hmethods, -, -, hcheck, hlower⟩ := hok hnames
  have hupper : preferredMethods ["p", "G"] (oneVariable methodsVariable " , ") = ["P", "G"] := by
    decide
  rw [hupper] at hmethods
  refine ⟨hlists, hnames, s, hs, hmethods, (hcheck "P").2 ?_, hlower "p" ⟨'p', by decide, rfl⟩⟩
  rw [hmethods]
  decide

end Settings

end CloudEvents
