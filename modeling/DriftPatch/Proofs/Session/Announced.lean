import DriftPatch.Proofs.Session.Sound

/-!
# What a run reports

A session is **audible** while neither the settings nor the level of the
journal keep its events silent (`Session.IsAudible`). What a request for one
edit then does and reports is said once and for all by `Session.Announces`:
at most one event, and which one it is says what became of the queues.

The **journal** of a run is the list of its events, each with the session
right after it. An audible run goes from one announcement to the next
(`Session.recounts_journal`), and what every announcement keeps up is kept up
by the whole run (`Session.Recounts.keeps`). The first thing shown so is that
no event says anything of an edit that is not so at that moment
(`Session.Recounts.describes`).
-/

namespace DriftPatch

/-- The status of an edit after a transition of a kind. -/
def EventKind.status? : EventKind → Option Status
  | .submitted => some .pending
  | .applied => some .applied
  | .failed => some .failed
  | .rejected => some .rejected
  | .cleared => none

/-- **An event says of an edit what it is**: its name, its file, and its
status, which is the one that the kind of the event stands for. -/
structure Event.Describes (ev : Event) (e : Edit) : Prop where
  /-- The name of the edit. -/
  editId : ev.editId = some e.id
  /-- Its file. -/
  filePath : ev.filePath = some e.filePath
  /-- Its status. -/
  status : ev.status = some e.status
  /-- The status after such a transition. -/
  kind : ev.kind.status? = some e.status

/-- **An event tells what became of an edit**: it is settled, and the event
describes it as it is now. -/
structure Event.Tells (ev : Event) (e a : Edit) : Prop where
  /-- It is the same edit. -/
  id : a.id = e.id
  /-- It is for the same file. -/
  filePath : a.filePath = e.filePath
  /-- It is settled. -/
  terminal : a.isTerminal = true
  /-- The event says what it is now. -/
  describes : ev.Describes a

/-- Whether a request leaves a session audible that is so. -/
def Request.keepsAudible : Request → Bool
  | .configure settings => settings.telemetry
  | .setJournalLevel level => Level.info.passes level
  | _ => true

namespace Session

/-- **The events of a session are reported.** -/
structure IsAudible (s : Session) : Prop where
  /-- The user has not turned them off. -/
  telemetry : s.settings.telemetry = true
  /-- The journal lets them pass. -/
  passes : Level.info.passes s.journalLevel = true

theorem report_of_isAudible {s : Session} (h : s.IsAudible) (ev : Event) :
    s.report ev = [ev] := by
  rw [report, h.telemetry, h.passes]
  rfl

/-! ## The journal of a run -/

/-- The events that some requests for one edit report, each with the session
right after it. -/
def told (s : Session) : List Request → List (Event × Session)
  | [] => []
  | single :: rest =>
    (s.perform single).events.map (·, (s.perform single).session)
      ++ told (s.perform single).session rest

/-- **The journal of a run**: its events in order, each with the session right
after it, where a request for many edits counts as the requests it comes
to. -/
def journal (s : Session) : List Request → List (Event × Session)
  | [] => []
  | request :: rest => s.told (s.singles request) ++ journal (s.perform request).session rest

theorem events_run_applications (es : List Edit) (texts : Texts) (s : Session) :
    (s.run (applications es texts s)).events = (applyEach es texts s).events := by
  induction es generalizing texts s with
  | nil => rfl
  | cons e es ih => exact congrArg (_ ++ ·) (ih _ _)

theorem events_run_rejections (names : List EditId) (s : Session) :
    (s.run (names.map .reject)).events = (rejectEach names s).events := by
  induction names generalizing s with
  | nil => rfl
  | cons id names ih => exact congrArg (_ ++ ·) (ih _)

/-- **A request reports what the requests it comes to report.** -/
theorem events_run_singles (s : Session) (request : Request) :
    (s.run (s.singles request)).events = (s.perform request).events := by
  have hone (request : Request) : (s.run [request]).events = (s.perform request).events :=
    List.append_nil _
  cases request with
  | applyAll contents => exact events_run_applications _ (.copied contents) s
  | rejectAll => exact events_run_rejections _ s
  | _ => exact hone _

theorem map_fst_told (s : Session) (singles : List Request) :
    (s.told singles).map Prod.fst = (s.run singles).events := by
  induction singles generalizing s with
  | nil => rfl
  | cons single singles ih =>
    rw [told, List.map_append, List.map_map, ih]
    exact congrArg (· ++ _) (List.map_id _)

/-- **The journal holds the events of the run.** -/
theorem map_fst_journal (s : Session) (requests : List Request) :
    (s.journal requests).map Prod.fst = (s.run requests).events := by
  induction requests generalizing s with
  | nil => rfl
  | cons request requests ih =>
    rw [journal, List.map_append, map_fst_told, events_run_singles, ih]
    rfl

/-! ## Announcements -/

/-- **What an audible session does for a request for one edit** that comes
from within, with the events that it reports. -/
inductive Announces (s : Session) : List Event → Session → Prop
  /-- The queues stay as they are, and nothing is reported. -/
  | silent (settings : Settings) (level : Level)
      (audible : IsAudible { s with settings, journalLevel := level }) :
    Announces s [] { s with settings, journalLevel := level }
  /-- A new edit waits behind the others. -/
  | submitted (filePath : Text) (diff : Diff) :
    Announces s [.ofSubmit { id := .issued s.issued, filePath, diff }]
      { s with
        pending := s.pending ++ [{ id := .issued s.issued, filePath, diff }]
        issued := s.issued + 1 }
  /-- An edit that waits is applied and moves to the end of the archive. -/
  | applied {e : Edit} (waits : s.Waits e) (content : Text) (strategies : List Strategy) :
    Announces s [.ofApply (asApplied e content) strategies]
      { s with
        pending := s.pending.filter (·.id != e.id)
        archive := s.archive ++ [asApplied e content]
        applying := false }
  /-- An edit that waits fails and stays where it is. -/
  | failed {e : Edit} (waits : s.Waits e) (failure : Failure) :
    Announces s [.ofFailure (asFailed e failure) failure]
      { s with
        pending := change e.id (fun _ => asFailed e failure) s.pending
        applying := false }
  /-- An edit that waits is turned down and stays where it is. -/
  | rejected {e : Edit} (waits : s.Waits e) :
    Announces s [.ofReject (asRejected e)]
      { s with pending := change e.id (fun _ => asRejected e) s.pending }
  /-- All edits are forgotten. -/
  | cleared :
    Announces s [.ofClear (s.pending.length + s.archive.length)]
      { s with pending := [], archive := [] }

theorem tells_ofApply (e : Edit) (content : Text) (strategies : List Strategy) :
    (Event.ofApply (asApplied e content) strategies).Tells e (asApplied e content) :=
  ⟨rfl, rfl, rfl, ⟨rfl, rfl, rfl, rfl⟩⟩

theorem tells_ofFailure (e : Edit) (failure : Failure) :
    (Event.ofFailure (asFailed e failure) failure).Tells e (asFailed e failure) :=
  ⟨rfl, rfl, rfl, ⟨rfl, rfl, rfl, rfl⟩⟩

theorem tells_ofReject (e : Edit) : (Event.ofReject (asRejected e)).Tells e (asRejected e) :=
  ⟨rfl, rfl, rfl, ⟨rfl, rfl, rfl, rfl⟩⟩

variable {s t u : Session} {events : List Event}

/-- An announcement is a step. -/
theorem Announces.exists_step (h : Announces s events t) : ∃ deed, Step s deed t := by
  cases h with
  | silent settings level _ => exact ⟨_, Step.idle settings level⟩
  | submitted filePath diff => exact ⟨_, Step.submit filePath diff⟩
  | applied waits content _ => exact ⟨_, Step.apply waits content⟩
  | failed waits failure => exact ⟨_, Step.fail waits failure⟩
  | rejected waits => exact ⟨_, Step.reject waits⟩
  | cleared => exact ⟨_, Step.clear⟩

theorem Announces.sound (h : Announces s events t) (hs : s.Sound) : t.Sound := by
  obtain ⟨deed, hstep⟩ := h.exists_step
  exact hs.step hstep

theorem Announces.isAudible (h : Announces s events t) (hs : s.IsAudible) : t.IsAudible := by
  cases h with
  | silent settings level audible => exact audible
  | _ => exact ⟨hs.telemetry, hs.passes⟩

/-- **An event says of an edit what it is** right after it. -/
theorem Announces.describes (h : Announces s events t) (ht : t.Sound) {ev : Event}
    (hev : ev ∈ events) (hkind : ev.kind ≠ .cleared) :
    ∃ e, t.get? e.id = some e ∧ ev.Describes e := by
  have hfound {e : Edit} (he : e ∈ t.edits) : t.get? e.id = some e :=
    get?_of_mem ht.distinct he
  have hchanged {e a : Edit} (hwaits : s.Waits e) (ha : a.id = e.id) :
      a ∈ change e.id (fun _ => a) s.pending :=
    (mem_change_iff ha (mem_ids_of_mem hwaits.mem)).2 (Or.inl rfl)
  cases h with
  | silent settings level _ => exact absurd hev List.not_mem_nil
  | submitted filePath diff =>
    obtain rfl := List.mem_singleton.1 hev
    exact ⟨_, hfound (List.mem_append_left _ List.mem_concat_self), rfl, rfl, rfl, rfl⟩
  | @applied e waits content strategies =>
    obtain rfl := List.mem_singleton.1 hev
    exact ⟨_, hfound (List.mem_append_right _ List.mem_concat_self),
      (tells_ofApply e content strategies).describes⟩
  | @failed e waits failure =>
    obtain rfl := List.mem_singleton.1 hev
    exact ⟨_, hfound (List.mem_append_left _ (hchanged waits rfl)),
      (tells_ofFailure e failure).describes⟩
  | @rejected e waits =>
    obtain rfl := List.mem_singleton.1 hev
    exact ⟨_, hfound (List.mem_append_left _ (hchanged waits rfl)),
      (tells_ofReject e).describes⟩
  | cleared =>
    obtain rfl := List.mem_singleton.1 hev
    exact absurd rfl hkind

/-! ## Every request announces what it does -/

theorem announces_same (hs : s.IsAudible) : Announces s [] s :=
  Announces.silent s.settings s.journalLevel hs

theorem announces_apply (hs : s.IsAudible) (id : EditId) (content : Option Text) :
    Announces s (s.apply id content).events (s.apply id content).session := by
  cases hwaiting : s.waiting id with
  | error notice =>
    rw [apply_of_error hwaiting]
    exact announces_same hs
  | ok e =>
    obtain ⟨hwaits, rfl⟩ := waits_of_waiting hwaiting
    cases hfailure : (s.outcomeOf e content).failure with
    | none =>
      rw [apply_of_ok hwaiting hfailure]
      dsimp only
      rw [report_of_isAudible hs]
      exact Announces.applied hwaits _ _
    | some failure =>
      rw [apply_of_failure hwaiting hfailure]
      dsimp only
      rw [report_of_isAudible hs]
      exact Announces.failed hwaits failure

theorem announces_reject (hs : s.IsAudible) (id : EditId) :
    Announces s (s.reject id).events (s.reject id).session := by
  cases hwaiting : s.waiting id with
  | error notice =>
    rw [reject_of_error hwaiting]
    exact announces_same hs
  | ok e =>
    obtain ⟨hwaits, rfl⟩ := waits_of_waiting hwaiting
    rw [reject_of_ok hwaiting]
    dsimp only
    rw [report_of_isAudible hs]
    exact Announces.rejected hwaits

/-- **Every request for one edit announces what it does**, if it comes from
within and leaves the session audible. -/
theorem announces_perform (hs : s.IsAudible) {request : Request}
    (hsingle : request.isSingle = true) (hinside : request.isInside = true)
    (haudible : request.keepsAudible = true) :
    Announces s (s.perform request).events (s.perform request).session := by
  cases request with
  | submit filePath diff =>
    simp only [perform]
    split
    · next path diff _ =>
      show Announces s (s.report _) _
      rw [report_of_isAudible hs]
      exact Announces.submitted path diff
    · exact announces_same hs
  | apply id content => exact announces_apply hs id content
  | preview id content =>
    have hsame : (s.preview id content).events = [] ∧ (s.preview id content).session = s := by
      unfold preview
      split <;> exact ⟨rfl, rfl⟩
    show Announces s (s.preview id content).events (s.preview id content).session
    rw [hsame.1, hsame.2]
    exact announces_same hs
  | applyAll contents => exact absurd hsingle Bool.false_ne_true
  | reject id => exact announces_reject hs id
  | rejectAll => exact absurd hsingle Bool.false_ne_true
  | clear =>
    show Announces s (s.report _) _
    rw [report_of_isAudible hs]
    exact Announces.cleared
  | get id => exact announces_same hs
  | configure settings => exact Announces.silent settings s.journalLevel ⟨haudible, hs.passes⟩
  | setStatus id status => exact absurd hinside Bool.false_ne_true
  | setJournalLevel level => exact Announces.silent s.settings level ⟨hs.telemetry, haudible⟩

/-! ## From announcement to announcement -/

/-- **Some announcements, one after another**, and what is told in them. -/
inductive Recounts : Session → List (Event × Session) → Session → Prop
  /-- No announcement. -/
  | nil (s : Session) : Recounts s [] s
  /-- One announcement, and more of them. -/
  | cons {s t u : Session} {events : List Event} {later : List (Event × Session)}
    (first : Announces s events t) (rest : Recounts t later u) :
    Recounts s (events.map (·, t) ++ later) u

namespace Recounts

variable {front back entries : List (Event × Session)}

theorem append (hfront : Recounts s front t) (hback : Recounts t back u) :
    Recounts s (front ++ back) u := by
  induction hfront with
  | nil _ => exact hback
  | cons first rest ih =>
    rw [List.append_assoc]
    exact Recounts.cons first (ih hback)

theorem isAudible (h : Recounts s entries t) (hs : s.IsAudible) : t.IsAudible := by
  induction h with
  | nil _ => exact hs
  | cons first rest ih => exact ih (first.isAudible hs)

/-- **What every announcement keeps up** with the events so far is kept up
from the first to the last. -/
theorem keeps {P : Session → List Event → Prop}
    (hstep : ∀ {s t : Session} {events log : List Event}, s.Sound → Announces s events t →
      P s log → P t (log ++ events))
    (h : Recounts s entries t) (hs : s.Sound) {log : List Event} (hlog : P s log) :
    P t (log ++ entries.map Prod.fst) := by
  induction h generalizing log with
  | nil _ => rwa [List.map_nil, List.append_nil]
  | @cons s t u events later first rest ih =>
    have hevents : (events.map (·, t)).map Prod.fst = events :=
      (List.map_map ..).trans (List.map_id _)
    rw [List.map_append, hevents, ← List.append_assoc]
    exact ih (first.sound hs) (hstep hs first hlog)

/-- **Every event says of an edit what it is** right after the event. -/
theorem describes (h : Recounts s entries t) (hs : s.Sound) :
    ∀ entry ∈ entries, entry.1.kind ≠ .cleared →
      ∃ e, entry.2.get? e.id = some e ∧ entry.1.Describes e := by
  induction h with
  | nil _ => exact List.forall_mem_nil _
  | cons first rest ih =>
    have hsound := first.sound hs
    refine List.forall_mem_append.2 ⟨fun entry hentry => ?_, ih hsound⟩
    obtain ⟨ev, hev, rfl⟩ := List.mem_map.1 hentry
    exact first.describes hsound hev

end Recounts

theorem recounts_told (hs : s.IsAudible) {singles : List Request}
    (h : ∀ single ∈ singles, single.isSingle = true ∧ single.isInside = true
      ∧ single.keepsAudible = true) :
    Recounts s (s.told singles) (s.run singles).session := by
  induction singles generalizing s with
  | nil => exact Recounts.nil s
  | cons single singles ih =>
    rw [List.forall_mem_cons] at h
    obtain ⟨⟨hsingle, hinside, haudible⟩, hrest⟩ := h
    have hfirst := announces_perform hs hsingle hinside haudible
    exact Recounts.cons hfirst (ih (hfirst.isAudible hs) hrest)

/-- **An audible run goes from one announcement to the next**, if all that is
asked of it comes from within and leaves it audible. -/
theorem recounts_journal (hs : s.IsAudible) {requests : List Request}
    (hinside : ∀ request ∈ requests, request.isInside = true)
    (haudible : ∀ request ∈ requests, request.keepsAudible = true) :
    Recounts s (s.journal requests) (s.run requests).session := by
  induction requests generalizing s with
  | nil => exact Recounts.nil s
  | cons request requests ih =>
    rw [List.forall_mem_cons] at hinside haudible
    have hsingles : ∀ single ∈ s.singles request, single.isSingle = true
        ∧ single.isInside = true ∧ single.keepsAudible = true := by
      intro single hmem
      obtain ⟨hsingle, hkind⟩ := eq_or_of_mem_singles hmem
      rcases hkind with rfl | ⟨id, content, rfl⟩ | ⟨id, rfl⟩
      · exact ⟨hsingle, hinside.1, haudible.1⟩
      · exact ⟨rfl, rfl, rfl⟩
      · exact ⟨rfl, rfl, rfl⟩
    have hfirst := recounts_told hs hsingles
    rw [run_singles] at hfirst
    exact hfirst.append (ih (hfirst.isAudible hs) hinside.2 haudible.2)

end Session

end DriftPatch
