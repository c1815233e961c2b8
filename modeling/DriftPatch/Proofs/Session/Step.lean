import DriftPatch.Proofs.Session.Queue
import DriftPatch.Session.Request

/-!
# What a run does, step by step

A request for many edits comes to a list of requests for one edit each
(`Session.singles`), and answering it leaves the session that answering those
in order leaves (`Session.run_singles`). So it is enough to know what a
request for one edit does. `Session.Step` says it once and for all: every such
request takes the session a step, and there are seven kinds of them.

What is learned from the answer to a request for one edit is a `Deed`. The
deeds of a whole run, in order, are its **history**: they are read off the
requests and their answers alone. A run takes the session along the steps of
its history (`Session.steps_run`), and whatever is to be shown of runs is
shown by induction on them.
-/

namespace DriftPatch

namespace Request

/-- Whether a request comes from within: all of them do but the one that
gives an edit a status from outside. -/
def isInside : Request → Bool
  | .setStatus .. => false
  | _ => true

/-- Whether a request is for one edit, or none, and not for many. -/
def isSingle : Request → Bool
  | .applyAll _ | .rejectAll => false
  | _ => true

end Request

/-- **What an answer tells** about the edits of a session. -/
inductive Deed where
  /-- An edit came in. -/
  | submitted (id : EditId)
  /-- An edit was applied. -/
  | applied (id : EditId)
  /-- All edits were forgotten. -/
  | cleared
  /-- An edit was given a status from outside. -/
  | assigned
  /-- None of these. -/
  | other
  deriving DecidableEq, Repr

/-- The deed that a request for one edit and its answer tell of. -/
def Deed.of : Request → Answer → Deed
  | .submit .., .issued id => .submitted id
  | .apply id _, .done true => .applied id
  | .clear, _ => .cleared
  | .setStatus .., _ => .assigned
  | _, _ => .other

/-- Whether an edit was applied. -/
def Deed.isApplied : Deed → Bool
  | .applied _ => true
  | _ => false

/-- How many edits were applied, by the answer to a request. -/
def Request.successes : Request → Answer → Nat
  | .apply .., .done true => 1
  | .applyAll _, .tally t _ => t.succeeded
  | _, _ => 0

theorem Deed.isInside_eq_false_of_assigned {request : Request} {answer : Answer}
    (h : Deed.of request answer = .assigned) : request.isInside = false := by
  unfold Deed.of at h
  split at h
  case h_4 => rfl
  all_goals exact nomatch h

theorem Deed.eq_clear_of_cleared {request : Request} {answer : Answer}
    (h : Deed.of request answer = .cleared) : request = .clear := by
  unfold Deed.of at h
  split at h
  case h_3 => rfl
  all_goals exact nomatch h

namespace Session

/-- A session that is just beginning. -/
def fresh (settings : Settings) (level : Level) : Session :=
  { settings, journalLevel := level }

/-! ## Histories -/

/-- The requests for one edit that applying some edits in order comes to:
each is applied to the text of its file as the ones before have left it. -/
def applications : List Edit → Texts → Session → List Request
  | [], _, _ => []
  | e :: rest, texts, s =>
    let content := texts.text? e.filePath
    let first := s.apply e.id content
    let texts := if first.answer then first.session.carryOver e texts else texts
    .apply e.id content :: applications rest texts first.session

/-- **The requests for one edit that a request comes to.** -/
def singles (s : Session) : Request → List Request
  | .applyAll contents =>
    applications (s.pending.filter (·.status == .pending)) (.copied contents) s
  | .rejectAll => (s.pending.map (·.id)).map .reject
  | request => [request]

/-- What the answers to some requests for one edit tell. -/
def trace (s : Session) : List Request → List Deed
  | [] => []
  | request :: rest =>
    Deed.of request (s.perform request).answer :: trace (s.perform request).session rest

/-- **The history of a run**: what its answers tell, in order, where a
request for many edits counts as the requests it comes to. -/
def history (s : Session) : List Request → List Deed
  | [] => []
  | request :: rest => s.trace (s.singles request) ++ history (s.perform request).session rest

theorem run_applications (es : List Edit) (texts : Texts) (s : Session) :
    (s.run (applications es texts s)).session = (applyEach es texts s).session := by
  induction es generalizing texts s with
  | nil => rfl
  | cons e es ih => exact ih _ (s.apply e.id (texts.text? e.filePath)).session

theorem run_rejections (names : List EditId) (s : Session) :
    (s.run (names.map .reject)).session = (rejectEach names s).session := by
  induction names generalizing s with
  | nil => rfl
  | cons id names ih => exact ih (s.reject id).session

/-- **A request does what the requests it comes to do.** -/
theorem run_singles (s : Session) (request : Request) :
    (s.run (s.singles request)).session = (s.perform request).session := by
  cases request with
  | applyAll contents => exact run_applications _ (.copied contents) s
  | rejectAll => exact run_rejections _ s
  | _ => rfl

/-! ## What the answers count -/

/-- An edit counts as a success if it was applied. -/
theorem Tally.succeeded_counting (t : Tally) (applied : Bool) :
    (t.counting applied).succeeded = t.succeeded + if applied then 1 else 0 := by
  cases applied <;> rfl

theorem countP_trace_applications (es : List Edit) (texts : Texts) (s : Session) :
    (s.trace (applications es texts s)).countP Deed.isApplied
      = (applyEach es texts s).answer.tally.succeeded := by
  induction es generalizing texts s with
  | nil => rfl
  | cons e es ih =>
    have hrest := ih (if (s.apply e.id (texts.text? e.filePath)).answer
      then (s.apply e.id (texts.text? e.filePath)).session.carryOver e texts else texts)
      (s.apply e.id (texts.text? e.filePath)).session
    -- the answer to the first request is the one that the batch counts
    have hfirst (b : Bool) :
        (Deed.of (.apply e.id (texts.text? e.filePath)) (.done b)).isApplied = b := by
      cases b <;> rfl
    rw [applications, trace, List.countP_cons, applyEach]
    refine (congrArg₂ (· + ·) hrest ?_).trans (Tally.succeeded_counting _ _).symm
    exact congrArg (if · = true then 1 else 0) (hfirst _)

theorem countP_trace_rejections (names : List EditId) (s : Session) :
    (s.trace (names.map .reject)).countP Deed.isApplied = 0 := by
  induction names generalizing s with
  | nil => rfl
  | cons id names ih => exact ih _

/-- **The deeds of a request tell of as many edits applied as its answer.** -/
theorem countP_trace_singles (s : Session) (request : Request) :
    (s.trace (s.singles request)).countP Deed.isApplied
      = request.successes (s.perform request).answer := by
  cases request with
  | applyAll contents => exact countP_trace_applications _ (.copied contents) s
  | rejectAll => exact countP_trace_rejections _ s
  | submit filePath diff =>
    show List.countP Deed.isApplied [Deed.of _ (s.perform (.submit filePath diff)).answer] = _
    cases (s.perform (.submit filePath diff)).answer <;> rfl
  | apply id content =>
    show List.countP Deed.isApplied [Deed.of _ (.done (s.apply id content).answer)]
      = Request.successes _ (.done (s.apply id content).answer)
    cases (s.apply id content).answer <;> rfl
  | _ => rfl

/-- **The history of a run tells of as many edits applied as its answers.** -/
theorem countP_history (s : Session) (requests : List Request) :
    (s.history requests).countP Deed.isApplied
      = (requests.zipWith Request.successes (s.run requests).answer).foldr (· + ·) 0 := by
  induction requests generalizing s with
  | nil => rfl
  | cons request requests ih =>
    rw [history, List.countP_append, countP_trace_singles, ih]
    rfl

/-! ## What a request comes to -/

theorem eq_apply_of_mem_applications {es : List Edit} {texts : Texts} {s : Session}
    {request : Request} (h : request ∈ applications es texts s) :
    ∃ id content, request = .apply id content := by
  induction es generalizing texts s with
  | nil => exact absurd h List.not_mem_nil
  | cons e es ih =>
    rcases List.mem_cons.1 h with rfl | h
    · exact ⟨_, _, rfl⟩
    · exact ih h

/-- The requests that a request comes to are for one edit each. Where they
are not the request itself, they apply edits or turn edits down. -/
theorem eq_or_of_mem_singles {s : Session} {request single : Request}
    (h : single ∈ s.singles request) :
    single.isSingle = true
      ∧ (single = request ∨ (∃ id content, single = .apply id content)
        ∨ ∃ id, single = .reject id) := by
  cases request with
  | applyAll contents =>
    obtain ⟨id, content, rfl⟩ := eq_apply_of_mem_applications h
    exact ⟨rfl, Or.inr (Or.inl ⟨id, content, rfl⟩)⟩
  | rejectAll =>
    obtain ⟨id, -, rfl⟩ := List.mem_map.1 h
    exact ⟨rfl, Or.inr (Or.inr ⟨id, rfl⟩)⟩
  | _ =>
    obtain rfl := List.mem_singleton.1 h
    exact ⟨rfl, Or.inl rfl⟩

/-! ## Steps -/

/-- **A step of a session**, with the deed that tells of it. -/
inductive Step (s : Session) : Deed → Session → Prop
  /-- The queues stay as they are. -/
  | idle (settings : Settings) (level : Level) :
    Step s .other { s with settings, journalLevel := level }
  /-- A new edit waits behind the others. -/
  | submit (filePath : Text) (diff : Diff) :
    Step s (.submitted (.issued s.issued))
      { s with
        pending := s.pending ++ [{ id := .issued s.issued, filePath, diff }]
        issued := s.issued + 1 }
  /-- An edit that waits is applied and moves to the end of the archive. -/
  | apply {e : Edit} (waits : s.Waits e) (content : Text) :
    Step s (.applied e.id)
      { s with
        pending := s.pending.filter (·.id != e.id)
        archive := s.archive ++ [asApplied e content]
        applying := false }
  /-- An edit that waits fails and stays where it is. -/
  | fail {e : Edit} (waits : s.Waits e) (failure : Failure) :
    Step s .other
      { s with
        pending := change e.id (fun _ => asFailed e failure) s.pending
        applying := false }
  /-- An edit that waits is turned down and stays where it is. -/
  | reject {e : Edit} (waits : s.Waits e) :
    Step s .other { s with pending := change e.id (fun _ => asRejected e) s.pending }
  /-- All edits are forgotten. -/
  | clear : Step s .cleared { s with pending := [], archive := [] }
  /-- An edit is given a status from outside. -/
  | assign (id : EditId) (status : Status) : Step s .assigned (s.setStatus id status)

/-- **Some steps of a session, one after another.** -/
inductive Steps : Session → List Deed → Session → Prop
  /-- No step. -/
  | nil (s : Session) : Steps s [] s
  /-- One step, and more of them. -/
  | cons {s t u : Session} {deed : Deed} {deeds : List Deed} (first : Step s deed t)
    (later : Steps t deeds u) : Steps s (deed :: deeds) u

theorem Steps.append {s t u : Session} {front back : List Deed} (hfront : Steps s front t)
    (hback : Steps t back u) : Steps s (front ++ back) u := by
  induction hfront with
  | nil _ => exact hback
  | cons first later ih => exact Steps.cons first (ih hback)

theorem Step.same (s : Session) : Step s .other s :=
  Step.idle s.settings s.journalLevel

/-- Applying an edit is a step, whatever comes of it. -/
theorem step_apply (s : Session) (id : EditId) (content : Option Text) :
    Step s (Deed.of (.apply id content) (.done (s.apply id content).answer))
      (s.apply id content).session := by
  cases hwaiting : s.waiting id with
  | error notice =>
    rw [apply_of_error hwaiting]
    exact Step.same s
  | ok e =>
    obtain ⟨hwaits, rfl⟩ := waits_of_waiting hwaiting
    cases hfailure : (s.outcomeOf e content).failure with
    | none =>
      rw [apply_of_ok hwaiting hfailure]
      exact Step.apply hwaits _
    | some failure =>
      rw [apply_of_failure hwaiting hfailure]
      exact Step.fail hwaits failure

/-- Turning an edit down is a step. -/
theorem step_reject (s : Session) (id : EditId) : Step s .other (s.reject id).session := by
  cases hwaiting : s.waiting id with
  | error notice =>
    rw [reject_of_error hwaiting]
    exact Step.same s
  | ok e =>
    obtain ⟨hwaits, rfl⟩ := waits_of_waiting hwaiting
    rw [reject_of_ok hwaiting]
    exact Step.reject hwaits

/-- **Every request for one edit takes the session a step**, and its answer
tells of it. -/
theorem step_perform (s : Session) {request : Request} (hsingle : request.isSingle = true) :
    Step s (Deed.of request (s.perform request).answer) (s.perform request).session := by
  cases request with
  | submit filePath diff =>
    simp only [perform]
    split
    · exact Step.submit _ _
    · exact Step.same s
  | apply id content => exact step_apply s id content
  | preview id content =>
    have hsame : (s.preview id content).session = s := by
      unfold preview
      split <;> rfl
    show Step s .other (s.preview id content).session
    rw [hsame]
    exact Step.same s
  | applyAll contents => exact absurd hsingle Bool.false_ne_true
  | reject id => exact step_reject s id
  | rejectAll => exact absurd hsingle Bool.false_ne_true
  | clear => exact Step.clear
  | get id => exact Step.same s
  | configure settings => exact Step.idle settings s.journalLevel
  | setStatus id status => exact Step.assign id status
  | setJournalLevel level => exact Step.idle s.settings level

theorem steps_trace (s : Session) {singles : List Request}
    (h : ∀ single ∈ singles, single.isSingle = true) :
    Steps s (s.trace singles) (s.run singles).session := by
  induction singles generalizing s with
  | nil => exact Steps.nil s
  | cons single singles ih =>
    rw [List.forall_mem_cons] at h
    exact Steps.cons (step_perform s h.1) (ih _ h.2)

/-- **A run takes the session along the steps of its history.** -/
theorem steps_run (s : Session) (requests : List Request) :
    Steps s (s.history requests) (s.run requests).session := by
  induction requests generalizing s with
  | nil => exact Steps.nil s
  | cons request requests ih =>
    have hsingles : ∀ single ∈ s.singles request, single.isSingle = true :=
      fun _ h => (eq_or_of_mem_singles h).1
    have hfirst := steps_trace s hsingles
    rw [run_singles s request] at hfirst
    exact hfirst.append (ih _)

/-! ## What a history tells of the requests -/

theorem mem_trace {s : Session} {singles : List Request} {deed : Deed}
    (h : deed ∈ s.trace singles) : ∃ single ∈ singles, ∃ answer, deed = Deed.of single answer := by
  induction singles generalizing s with
  | nil => exact absurd h List.not_mem_nil
  | cons single singles ih =>
    rcases List.mem_cons.1 h with rfl | h
    · exact ⟨single, List.mem_cons_self, _, rfl⟩
    · obtain ⟨later, hlater, hdeed⟩ := ih h
      exact ⟨later, List.mem_cons_of_mem single hlater, hdeed⟩

theorem mem_history {s : Session} {requests : List Request} {deed : Deed}
    (h : deed ∈ s.history requests) :
    ∃ request ∈ requests, ∃ t : Session, ∃ single ∈ t.singles request, ∃ answer,
      deed = Deed.of single answer := by
  induction requests generalizing s with
  | nil => exact absurd h List.not_mem_nil
  | cons request requests ih =>
    rcases List.mem_append.1 h with h | h
    · exact ⟨request, List.mem_cons_self, s, mem_trace h⟩
    · obtain ⟨later, hlater, hdeed⟩ := ih h
      exact ⟨later, List.mem_cons_of_mem request hlater, hdeed⟩

/-- Where all requests come from within no status is assigned. -/
theorem assigned_notMem_history {s : Session} {requests : List Request}
    (hinside : ∀ request ∈ requests, request.isInside = true) :
    Deed.assigned ∉ s.history requests := by
  intro h
  obtain ⟨request, hrequest, t, single, hsingle, answer, hdeed⟩ := mem_history h
  have houtside := Deed.isInside_eq_false_of_assigned hdeed.symm
  rcases (eq_or_of_mem_singles hsingle).2 with rfl | ⟨id, content, rfl⟩ | ⟨id, rfl⟩
  · rw [hinside single hrequest] at houtside
    exact Bool.false_ne_true houtside.symm
  · exact Bool.false_ne_true houtside.symm
  · exact Bool.false_ne_true houtside.symm

/-- All edits are forgotten when this is asked for, and at no other time. -/
theorem cleared_mem_history_iff {s : Session} {requests : List Request} :
    Deed.cleared ∈ s.history requests ↔ Request.clear ∈ requests := by
  constructor
  · intro h
    obtain ⟨request, hrequest, t, single, hsingle, answer, hdeed⟩ := mem_history h
    obtain rfl := Deed.eq_clear_of_cleared hdeed.symm
    rcases (eq_or_of_mem_singles hsingle).2 with rfl | ⟨id, content, hclear⟩ | ⟨id, hclear⟩
    · exact hrequest
    · exact nomatch hclear
    · exact nomatch hclear
  · intro h
    induction requests generalizing s with
    | nil => exact absurd h List.not_mem_nil
    | cons request requests ih =>
      refine List.mem_append.2 ?_
      rcases List.mem_cons.1 h with rfl | h
      · exact Or.inl List.mem_cons_self
      · exact Or.inr (ih h)

end Session

end DriftPatch
