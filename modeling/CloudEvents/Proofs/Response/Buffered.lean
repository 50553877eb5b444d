import CloudEvents.Proofs.OrderedMap
import CloudEvents.Response.Buffered
import Mathlib.Data.List.DropRight

/-! What a buffered response has collected, told by the uses of it alone. -/
namespace CloudEvents.BufferedResponse

attribute [ext] BufferedResponse

/-- What may be asked of a response, and of its body streams by their numbers. -/
inductive Use
  | addHeader (name : String) (value : Scalar)
  | setStatus (status : Int)
  | sendError (status : Int) (message : String)
  | openBody
  | write (stream : Nat) (bytes : List UInt8)
  | flush (stream : Nat)
  | close (stream : Nat)
  deriving DecidableEq

namespace Use

def act : Use → EStateM Fault BufferedResponse Unit
  | addHeader name value => ResponseWriter.addHeader name value
  | setStatus status => ResponseWriter.setStatus status
  | sendError status message => HttpResponse.sendError status message
  | openBody => do let _ ← ResponseWriter.openBody
  | write stream bytes => do let _ ← ResponseWriter.writeBody stream bytes
  | flush stream => ResponseWriter.flushBody stream
  | close stream => ResponseWriter.closeBody stream

/-- What a use leaves of a response, whether or not it fails. -/
def leaves (u : Use) (r : BufferedResponse) : BufferedResponse :=
  match u.act.run r with
  | .ok _ t | .error _ t => t

def header? : Use → Option (String × Scalar)
  | addHeader name value => some (name, value)
  | _ => none

def status? : Use → Option Int
  | setStatus status | sendError status _ => some status
  | _ => none

/-- The message of an error page. -/
def page? : Use → Option String
  | sendError _ message => some message
  | _ => none

def stream? : Use → Option Nat
  | write stream _ | flush stream | close stream => some stream
  | _ => none

def closes? : Use → Option Nat
  | close stream => some stream
  | _ => none

/-- The bytes that are written to a stream. -/
def bytesFor (stream : Nat) : Use → List UInt8
  | write s bytes => if s = stream then bytes else []
  | _ => []

end Use

/-- The response after some uses. -/
def collected (us : List Use) : BufferedResponse := us.foldl (fun r u => u.leaves r) {}

def opened (us : List Use) : Nat := us.count .openBody

/-- Some uses, each of a stream that was opened before. -/
inductive Legal : List Use → Prop
  | nil : Legal []
  | concat {us : List Use} {u : Use} (h : Legal us) (hu : ∀ i ∈ u.stream?, i < opened us) :
      Legal (us ++ [u])

/-- The message of the last error page. -/
def lastPage (us : List Use) : Option String := (us.filterMap Use.page?).getLast?

/-- The uses after the last error page. -/
def sincePage (us : List Use) : List Use := us.rtakeWhile fun u => u.page?.isNone

/-- The uses up to the last error page. -/
def upToPage (us : List Use) : List Use := us.rdropWhile fun u => u.page?.isNone

/-- What is written to a stream before it is closed. -/
def contents (us : List Use) (i : Nat) : List UInt8 :=
  (us.takeWhile (· ≠ .close i)).flatMap (Use.bytesFor i)

/-- The streams that are closed, in the order in which they are closed for the first time. -/
def closings (us : List Use) : List Nat := (us.filterMap Use.closes?).eraseDups

/-- Of these, the ones that were not closed up to the last error page. -/
def committed (us : List Use) : List Nat :=
  (closings us).filter fun i => .close i ∉ upToPage us

def pageHeaders (message : String) : List (String × Scalar) :=
  [("Content-Type", .text "text/plain; charset=utf-8"),
    ("Content-Length", .text (Text.signed (octets message).length))]

/-- A stream as the uses left it. -/
def sink (us : List Use) (i : Nat) : BodySink := ⟨contents us i, decide (.close i ∈ us)⟩

/-- The response that some uses tell of. -/
def summary (us : List Use) : BufferedResponse where
  status := (us.filterMap Use.status?).getLast?.getD Status.ok
  headers := ((lastPage us).map pageHeaders).getD [] ++ (sincePage us).filterMap Use.header?
  body := ((lastPage us).map octets).getD [] ++ (committed us).flatMap (contents us)
  sinks := (List.range (opened us)).map (sink us)

variable {us : List Use} {u : Use} {i : Nat}

theorem collected_concat (us : List Use) (u : Use) :
    collected (us ++ [u]) = u.leaves (collected us) := by
  simp [collected]

theorem Legal.lt_opened (h : Legal us) : ∀ u ∈ us, ∀ i ∈ u.stream?, i < opened us := by
  induction h with
  | nil => simp
  | @concat us u h hu ih =>
    intro v hv i hi
    have hle : opened us ≤ opened (us ++ [u]) := by simp [opened]
    rcases List.mem_append.1 hv with hv | hv
    · exact Nat.lt_of_lt_of_le (ih v hv i hi) hle
    · rw [List.mem_singleton.1 hv] at hi
      exact Nat.lt_of_lt_of_le (hu i hi) hle

theorem sincePage_concat (h : u.page? = none) : sincePage (us ++ [u]) = sincePage us ++ [u] :=
  List.rtakeWhile_concat_pos _ _ _ (by simp [h])

theorem upToPage_concat (h : u.page? = none) : upToPage (us ++ [u]) = upToPage us :=
  List.rdropWhile_concat_pos _ _ _ (by simp [h])

theorem sincePage_concat_page {message : String} (h : u.page? = some message) :
    sincePage (us ++ [u]) = [] :=
  List.rtakeWhile_concat_neg _ _ _ (by simp [h])

theorem upToPage_concat_page {message : String} (h : u.page? = some message) :
    upToPage (us ++ [u]) = us ++ [u] :=
  List.rdropWhile_concat_neg _ _ _ (by simp [h])

theorem mem_closings_iff : i ∈ closings us ↔ .close i ∈ us := by
  rw [closings, List.mem_eraseDups, List.mem_filterMap]
  constructor
  · rintro ⟨u, hu, hi⟩
    cases u <;> simp only [Use.closes?, reduceCtorEq, Option.some.injEq] at hi
    exact hi ▸ hu
  · intro h
    exact ⟨_, h, rfl⟩

theorem contents_concat_of_closed (h : .close i ∈ us) (u : Use) :
    contents (us ++ [u]) i = contents us i := by
  have hstops : (us.takeWhile (· ≠ .close i)).length ≠ us.length := by
    intro hlength
    have hall := (List.takeWhile_prefix (· ≠ Use.close i)).eq_of_length hlength
    rw [List.takeWhile_eq_self_iff] at hall
    simpa using hall _ h
  rw [contents, List.takeWhile_append, if_neg hstops, contents]

theorem contents_concat_of_open (h : .close i ∉ us) (u : Use) :
    contents (us ++ [u]) i = contents us i ++ u.bytesFor i := by
  have hall : ∀ v ∈ us, decide (v ≠ .close i) = true := by
    intro v hv
    rw [decide_eq_true_eq]
    rintro rfl
    exact h hv
  have hwhole : us.takeWhile (· ≠ .close i) = us := List.takeWhile_eq_self_iff.2 hall
  rw [contents, List.takeWhile_append_of_pos hall, List.flatMap_append, contents, hwhole]
  by_cases hu : u = .close i
  · subst hu
    simp [Use.bytesFor]
  · simp [hu]

theorem sink_concat_of_closed (h : .close i ∈ us) (u : Use) : sink (us ++ [u]) i = sink us i := by
  simp [sink, contents_concat_of_closed h, h]

theorem sink_concat_of_open (h : .close i ∉ us) (u : Use) :
    sink (us ++ [u]) i = ⟨contents us i ++ u.bytesFor i, decide (.close i = u)⟩ := by
  simp [sink, contents_concat_of_open h, h]

/-- A use that neither writes to a stream nor closes it leaves it as it is. -/
theorem sink_concat_of_idle (hw : u.bytesFor i = []) (hc : u ≠ .close i) :
    sink (us ++ [u]) i = sink us i := by
  by_cases h : .close i ∈ us
  · exact sink_concat_of_closed h u
  · rw [sink_concat_of_open h, hw, List.append_nil]
    simp [sink, h, hc.symm]

theorem closings_concat (h : u.closes? = none) : closings (us ++ [u]) = closings us := by
  simp [closings, List.filterMap_append, h]

theorem closings_concat_close (us : List Use) (i : Nat) : closings (us ++ [.close i]) =
    if .close i ∈ us then closings us else closings us ++ [i] := by
  have hmem : i ∈ us.filterMap Use.closes? ↔ .close i ∈ us := by
    rw [← mem_closings_iff, closings, List.mem_eraseDups]
  rw [closings, List.filterMap_append]
  change (us.filterMap Use.closes? ++ [i]).eraseDups = _
  rw [List.eraseDups_concat]
  simp only [hmem, closings]

theorem set_map_range {α : Type} (f : Nat → α) (n : Nat) (a : α) (i : Nat) :
    ((List.range n).map f).set i a = (List.range n).map (Function.update f i a) := by
  refine List.ext_getElem? fun j => ?_
  by_cases hj : i = j
  · subst hj
    by_cases hi : i < n <;> simp [hi]
  · by_cases hi : j < n <;> simp [hj, hi, Ne.symm hj]

theorem lastPage_concat (us : List Use) (u : Use) :
    lastPage (us ++ [u]) = u.page?.or (lastPage us) := by
  cases h : u.page? <;> simp [lastPage, h]

theorem status_concat (us : List Use) (u : Use) :
    (summary (us ++ [u])).status = u.status?.getD (summary us).status := by
  cases h : u.status? <;> simp [summary, h]

theorem headers_concat_page {message : String} (h : u.page? = some message) :
    (summary (us ++ [u])).headers = pageHeaders message := by
  simp [summary, lastPage_concat, h, sincePage_concat_page h]

theorem headers_concat (h : u.page? = none) :
    (summary (us ++ [u])).headers = (summary us).headers ++ u.header?.toList := by
  cases hu : u.header? <;> simp [summary, lastPage_concat, h, sincePage_concat h, hu]

theorem headers_concat_of_none (h : u.page? = none) (hu : u.header? = none) :
    (summary (us ++ [u])).headers = (summary us).headers := by
  rw [headers_concat h, hu, Option.toList_none, List.append_nil]

theorem committed_concat_page {message : String} (h : u.page? = some message) :
    committed (us ++ [u]) = [] := by
  rw [committed, upToPage_concat_page h, List.filter_eq_nil_iff]
  intro i hi
  rw [decide_eq_true_eq, not_not]
  exact mem_closings_iff.1 hi

theorem mem_of_mem_committed (h : i ∈ committed us) : .close i ∈ us :=
  mem_closings_iff.1 (List.mem_filter.1 h).1

/-- What was committed stays as it was. -/
theorem flatMap_contents_concat (us : List Use) (u : Use) :
    (committed us).flatMap (contents (us ++ [u])) = (committed us).flatMap (contents us) :=
  List.flatMap_congr fun _ hi => contents_concat_of_closed (mem_of_mem_committed hi) u

theorem body_concat_page {message : String} (h : u.page? = some message) :
    (summary (us ++ [u])).body = octets message := by
  simp [summary, lastPage_concat, h, committed_concat_page h]

theorem body_concat (h : u.page? = none) (hc : u.closes? = none) :
    (summary (us ++ [u])).body = (summary us).body := by
  have hcommitted : committed (us ++ [u]) = committed us := by
    rw [committed, closings_concat hc, upToPage_concat h, committed]
  simp only [summary, lastPage_concat, h, Option.none_or, hcommitted, flatMap_contents_concat]

theorem body_concat_close (us : List Use) (i : Nat) : (summary (us ++ [.close i])).body =
    (summary us).body ++ if .close i ∈ us then [] else contents us i := by
  have hpage : (Use.close i).page? = none := rfl
  split
  next h =>
    have hcommitted : committed (us ++ [.close i]) = committed us := by
      rw [committed, closings_concat_close, if_pos h, upToPage_concat hpage, committed]
    simp only [summary, lastPage_concat, hpage, Option.none_or, hcommitted, flatMap_contents_concat,
      List.append_nil]
  next h =>
    have hfresh : .close i ∉ upToPage us := fun hm => h ((List.rdropWhile_prefix ..).subset hm)
    have hcommitted : committed (us ++ [.close i]) = committed us ++ [i] := by
      rw [committed, closings_concat_close, if_neg h, upToPage_concat hpage, List.filter_append,
        committed]
      simp [hfresh]
    have hcontents : contents (us ++ [.close i]) i = contents us i := by
      rw [contents_concat_of_open h]
      simp [Use.bytesFor]
    simp only [summary, lastPage_concat, hpage, Option.none_or, hcommitted, List.flatMap_append,
      flatMap_contents_concat, List.flatMap_singleton, hcontents, List.append_assoc]

theorem sinks_concat (h : u ≠ .openBody) (hu : ∀ i, sink (us ++ [u]) i = sink us i) :
    (summary (us ++ [u])).sinks = (summary us).sinks := by
  have hopened : opened (us ++ [u]) = opened us := by simp [opened, h]
  simp only [summary, hopened]
  exact List.map_congr_left fun i _ => hu i

theorem sinks_concat_of_closed (h : u ≠ .openBody) (hc : .close i ∈ us)
    (hu : ∀ j, j ≠ i → sink (us ++ [u]) j = sink us j) :
    (summary (us ++ [u])).sinks = (summary us).sinks := by
  refine sinks_concat h fun j => ?_
  by_cases hj : j = i
  · rw [hj, sink_concat_of_closed hc]
  · exact hu j hj

theorem sinks_concat_set (h : u ≠ .openBody)
    (hu : ∀ j, j ≠ i → sink (us ++ [u]) j = sink us j) :
    (summary (us ++ [u])).sinks = (summary us).sinks.set i (sink (us ++ [u]) i) := by
  have hopened : opened (us ++ [u]) = opened us := by simp [opened, h]
  simp only [summary, hopened, set_map_range]
  refine List.map_congr_left fun j _ => ?_
  by_cases hj : j = i
  · rw [hj, Function.update_self]
  · rw [hu j hj, Function.update_of_ne hj]

/-- A stream that is opened is empty: its number was not used before. -/
theorem sinks_concat_open (h : Legal us) :
    (summary (us ++ [.openBody])).sinks = (summary us).sinks ++ [⟨[], false⟩] := by
  have hsink : sink (us ++ [.openBody]) = sink us := funext fun i =>
    sink_concat_of_idle rfl (by simp)
  have hunused : ∀ u ∈ us, u.stream? ≠ some (opened us) := by
    intro u hu hs
    exact Nat.lt_irrefl _ (h.lt_opened u hu _ hs)
  have hclosed : .close (opened us) ∉ us := fun hm => hunused _ hm rfl
  have hcontents : contents us (opened us) = [] := by
    rw [contents, List.flatMap_eq_nil_iff]
    intro u hu
    have hs := hunused u ((List.takeWhile_prefix _).subset hu)
    cases u <;> simp_all [Use.bytesFor, Use.stream?]
  have hopened : opened (us ++ [.openBody]) = opened us + 1 := by simp [opened]
  simp only [summary, hopened, List.range_succ, List.map_append, hsink, List.map_singleton]
  simp [sink, hcontents, hclosed]

theorem openSink?_summary (h : i < opened us) : (summary us).openSink? i =
    if .close i ∈ us then none else some ⟨contents us i, false⟩ := by
  by_cases hc : .close i ∈ us <;> simp [openSink?, summary, h, sink, hc]

theorem leaves_write (i : Nat) (bytes : List UInt8) (r : BufferedResponse) :
    (Use.write i bytes).leaves r =
      match r.openSink? i with
      | some s => { r with sinks := r.sinks.set i { s with bytes := s.bytes ++ bytes } }
      | none => r := by
  simp only [Use.leaves, Use.act, EStateM.run_bind, run_writeBody]
  cases r.openSink? i <;> rfl

theorem leaves_flush (i : Nat) (r : BufferedResponse) : (Use.flush i).leaves r = r := by
  simp only [Use.leaves, Use.act, run_flushBody]
  cases r.openSink? i <;> rfl

theorem leaves_close (i : Nat) (r : BufferedResponse) : (Use.close i).leaves r =
    match r.openSink? i with
    | some s => { r with
        body := r.body ++ s.bytes
        sinks := r.sinks.set i { s with closed := true } }
    | none => r := rfl

/-- The response that some uses tell of becomes with one more use what they tell of with it. -/
theorem summary_concat (h : Legal us) (hu : ∀ i ∈ u.stream?, i < opened us) :
    summary (us ++ [u]) = u.leaves (summary us) := by
  have hidle : ∀ {v : Use}, (∀ i, v.bytesFor i = [] ∧ v ≠ .close i) →
      ∀ i, sink (us ++ [v]) i = sink us i := fun hv i => sink_concat_of_idle (hv i).1 (hv i).2
  cases u with
  | addHeader name value =>
    exact BufferedResponse.ext (status_concat us _) (headers_concat rfl) (body_concat rfl rfl)
      (sinks_concat (by simp) (hidle fun i => ⟨rfl, by simp⟩))
  | setStatus status =>
    exact BufferedResponse.ext (status_concat us _) (headers_concat_of_none rfl rfl)
      (body_concat rfl rfl) (sinks_concat (by simp) (hidle fun i => ⟨rfl, by simp⟩))
  | sendError status message =>
    exact BufferedResponse.ext (status_concat us _) (headers_concat_page rfl) (body_concat_page rfl)
      (sinks_concat (by simp) (hidle fun i => ⟨rfl, by simp⟩))
  | openBody =>
    exact BufferedResponse.ext (status_concat us _) (headers_concat_of_none rfl rfl)
      (body_concat rfl rfl) (sinks_concat_open h)
  | flush i =>
    rw [leaves_flush]
    exact BufferedResponse.ext (status_concat us _) (headers_concat_of_none rfl rfl)
      (body_concat rfl rfl) (sinks_concat (by simp) (hidle fun i => ⟨rfl, by simp⟩))
  | write i bytes =>
    have hothers : ∀ j, j ≠ i → sink (us ++ [.write i bytes]) j = sink us j := fun j hj =>
      sink_concat_of_idle (by simp [Use.bytesFor, hj.symm]) (by simp)
    rw [leaves_write, openSink?_summary (hu i rfl)]
    -- A closed stream takes nothing, and the contents that the uses tell of end at its closing.
    by_cases hc : .close i ∈ us
    · rw [if_pos hc]
      exact BufferedResponse.ext (status_concat us _) (headers_concat_of_none rfl rfl)
        (body_concat rfl rfl) (sinks_concat_of_closed (by simp) hc hothers)
    · have hsink : sink (us ++ [.write i bytes]) i = ⟨contents us i ++ bytes, false⟩ := by
        rw [sink_concat_of_open hc]
        simp [Use.bytesFor]
      rw [if_neg hc]
      refine BufferedResponse.ext (status_concat us _) (headers_concat_of_none rfl rfl)
        (body_concat rfl rfl) ?_
      rw [sinks_concat_set (by simp) hothers, hsink]
  | close i =>
    have hothers : ∀ j, j ≠ i → sink (us ++ [.close i]) j = sink us j := fun j hj =>
      sink_concat_of_idle rfl (by simpa using hj.symm)
    have hbody := body_concat_close us i
    rw [leaves_close, openSink?_summary (hu i rfl)]
    -- Only the first time does the body grow, and by as much as is told of the stream so far.
    by_cases hc : .close i ∈ us
    · rw [if_pos hc] at hbody ⊢
      exact BufferedResponse.ext (status_concat us _) (headers_concat_of_none rfl rfl)
        (hbody.trans (List.append_nil _)) (sinks_concat_of_closed (by simp) hc hothers)
    · have hsink : sink (us ++ [.close i]) i = ⟨contents us i, true⟩ := by
        rw [sink_concat_of_open hc]
        simp [Use.bytesFor]
      rw [if_neg hc] at hbody ⊢
      refine BufferedResponse.ext (status_concat us _) (headers_concat_of_none rfl rfl) hbody ?_
      rw [sinks_concat_set (by simp) hothers, hsink]

theorem collected_eq_summary (h : Legal us) : collected us = summary us := by
  induction h with
  | nil => rfl
  | concat h hu ih => rw [collected_concat, ih, summary_concat h hu]

theorem Legal.openSink?_collected (h : Legal us) (hi : i < opened us) :
    (collected us).openSink? i =
      if .close i ∈ us then none else some ⟨contents us i, false⟩ := by
  rw [collected_eq_summary h, openSink?_summary hi]

theorem Legal.sinks_length (h : Legal us) : (collected us).sinks.length = opened us := by
  simp [collected_eq_summary h, summary]

theorem nodup_committed (us : List Use) : (committed us).Nodup :=
  (List.nodup_eraseDups _).filter _

theorem mem_committed_iff : i ∈ committed us ↔ .close i ∈ us ∧ .close i ∉ upToPage us := by
  rw [committed, List.mem_filter, mem_closings_iff, decide_eq_true_eq]

/-- Whatever the order in which a response and its streams are used: the status is the last that was
set, the headers are those of the last error page and what was added since. The body is the text of
that page, and behind it, in the order in which they were closed, the whole contents of the streams
that were first closed since; each of them is there once, and no open one is. What is written to a
closed stream is refused and leaves the response as it is, and so does closing it again. -/
theorem Legal.collects (h : Legal us) :
    (collected us).status = (us.filterMap Use.status?).getLast?.getD Status.ok ∧
    (collected us).headers =
      ((lastPage us).map pageHeaders).getD [] ++ (sincePage us).filterMap Use.header? ∧
    (collected us).body =
      ((lastPage us).map octets).getD [] ++ (committed us).flatMap (contents us) ∧
    (committed us).Nodup ∧ (∀ i, i ∈ committed us ↔ .close i ∈ us ∧ .close i ∉ upToPage us) ∧
    ResponseWriter.openBody.run (collected us) =
      .ok (opened us) (collected (us ++ [.openBody])) ∧
    Fault.closedStream.kind = .anyValue ∧
    ∀ i < opened us,
      (.close i ∈ us →
        (∀ bytes, (ResponseWriter.writeBody i bytes).run (collected us) =
          .error .closedStream (collected us)) ∧
        (ResponseWriter.closeBody i).run (collected us) = .ok () (collected us)) ∧
      (.close i ∉ us →
        (∀ bytes, (ResponseWriter.writeBody i bytes).run (collected us) =
          .ok bytes.length (collected (us ++ [.write i bytes]))) ∧
        (ResponseWriter.closeBody i).run (collected us) =
          .ok () (collected (us ++ [.close i]))) := by
  have hsummary := collected_eq_summary h
  refine ⟨congrArg status hsummary, congrArg headers hsummary, congrArg body hsummary,
    nodup_committed us, fun i => mem_committed_iff, ?_, rfl,
    fun i hi => ⟨fun hc => ?_, fun hc => ?_⟩⟩
  · rw [run_openBody, h.sinks_length, collected_concat]
    rfl
  · have hsink := h.openSink?_collected hi
    rw [if_pos hc] at hsink
    simp only [run_writeBody, run_closeBody, hsink, implies_true, and_self]
  · have hsink := h.openSink?_collected hi
    rw [if_neg hc] at hsink
    simp only [run_writeBody, run_closeBody, collected_concat, leaves_write, leaves_close, hsink,
      implies_true, and_self]

/-- Two streams are open when an error page comes. The one that was closed before it is lost, the
other follows it. -/
def crossing : List Use :=
  [.openBody, .openBody, .write 0 [1], .write 1 [2], .addHeader "Allow" (.text "POST"), .close 0,
    .sendError 500 "E", .write 0 [3], .close 0, .write 1 [4], .close 1, .close 1]

theorem collects_crossing : Legal crossing ∧ (collected crossing).status = 500 ∧
    (collected crossing).headers = pageHeaders "E" ∧
    (collected crossing).body = octets "E" ++ [2, 4] := by
  have hopen : Legal [.openBody, .openBody] :=
    (Legal.nil.concat (u := .openBody) (by decide)).concat (u := .openBody) (by decide)
  have hpage : Legal (crossing.take 7) :=
    ((((hopen.concat (u := .write 0 [1]) (by decide)).concat (u := .write 1 [2])
      (by decide)).concat (u := .addHeader "Allow" (.text "POST")) (by decide)).concat
      (u := .close 0) (by decide)).concat (u := .sendError 500 "E") (by decide)
  have hlegal : Legal crossing :=
    ((((hpage.concat (u := .write 0 [3]) (by decide)).concat (u := .close 0) (by decide)).concat
      (u := .write 1 [4]) (by decide)).concat (u := .close 1) (by decide)).concat
      (u := .close 1) (by decide)
  obtain ⟨hstatus, hheaders, hbody, -⟩ := hlegal.collects
  have hcommitted : committed crossing = [1] := by decide
  rw [hcommitted] at hbody
  exact ⟨hlegal, hstatus, hheaders, hbody⟩

end CloudEvents.BufferedResponse
