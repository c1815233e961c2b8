import DriftPatch.Proofs.Session.Announced
import Mathlib.Data.List.DropRight

/-!
# The journal tells the whole story

Whoever has nothing but the journal of an audible run knows both of its queues
(`Session.run_journaled`). What is kept of an edit is a `Card`, with its name,
its file and its status, and a `Mirror` is two queues of cards. The events since
all edits were forgotten the last time, entered in a mirror one by one, make
the mirror of the session itself.

Two invariants are kept up from announcement to announcement.
`Session.Mirrored` says that the mirror is right and that nothing was lost
when edits were forgotten. `Session.Counted` says how often an edit occurs in
the journal: it came in once, and it was settled at most once. The latter
needs more than the counts, namely that of an edit that waits, or is yet to
come in, nothing was told.
-/

namespace DriftPatch

/-! ## The queues as a journal tells of them -/

/-- **What a journal tells of an edit.** -/
structure Card where
  /-- The name of the edit. -/
  editId : Option EditId
  /-- Its file. -/
  filePath : Option Text
  /-- Its status. -/
  status : Option Status
  deriving DecidableEq, Repr

/-- What there is to tell of an edit. -/
def Card.ofEdit (e : Edit) : Card :=
  ⟨some e.id, some e.filePath, some e.status⟩

/-- **The two queues** as a journal tells of them. -/
structure Mirror where
  /-- The edits that were not applied. -/
  pending : List Card := []
  /-- The edits that were applied. -/
  archive : List Card := []
  deriving DecidableEq, Repr

namespace Event

/-- Whether an edit of a name came in. -/
def submits (id : EditId) (ev : Event) : Bool :=
  ev.kind == .submitted && ev.editId == some id

/-- Whether an edit of a name was applied, failed or was turned down. -/
def settles (id : EditId) (ev : Event) : Bool :=
  ev.kind.status?.any Status.isTerminal && ev.editId == some id

/-- The events since all edits were forgotten the last time. -/
def sinceClear (log : List Event) : List Event :=
  log.rtakeWhile (·.kind != .cleared)

/-- How many edits came in. -/
def submissions (log : List Event) : Nat :=
  log.countP (·.kind == .submitted)

/-- The cards with the status changed of the edit that an event is about. -/
def restate (ev : Event) (cards : List Card) : List Card :=
  cards.map fun c => if c.editId = ev.editId then { c with status := ev.status } else c

end Event

namespace Mirror

/-- **The queues after an event.** One that comes in waits behind the others,
one that fails or is turned down gets another status where it is, and one that
is applied moves to the end of the archive. -/
def enter (m : Mirror) (ev : Event) : Mirror :=
  match ev.kind with
  | .submitted => { m with pending := m.pending ++ [⟨ev.editId, ev.filePath, some .pending⟩] }
  | .failed | .rejected => { m with pending := ev.restate m.pending }
  | .applied =>
    { pending := m.pending.filter (·.editId != ev.editId)
      archive := m.archive ++ ((ev.restate m.pending).find? (·.editId == ev.editId)).toList }
  | .cleared => m

/-- The queues that some events tell of. -/
def ofEvents (events : List Event) : Mirror :=
  events.foldl enter {}

/-- **The queues of a session**, name by name with file and status. -/
def ofSession (s : Session) : Mirror where
  pending := s.pending.map Card.ofEdit
  archive := s.archive.map Card.ofEdit

end Mirror

namespace Event

variable {log : List Event} {ev : Event} {queue : List Edit} {e a : Edit}

theorem sinceClear_concat (h : ev.kind ≠ .cleared) :
    sinceClear (log ++ [ev]) = sinceClear log ++ [ev] :=
  List.rtakeWhile_concat_pos _ _ _ (bne_iff_ne.2 h)

theorem sinceClear_concat_of_cleared (log : List Event) (h : ev.kind = .cleared) :
    sinceClear (log ++ [ev]) = [] :=
  List.rtakeWhile_concat_neg _ _ _ (by simp [h])

/-- An event that describes what an edit has become makes of its card the card
of that, and leaves all other cards as they are. -/
theorem restate_map_ofEdit (hnodup : (Session.ids queue).Nodup) (he : e ∈ queue)
    (hev : ev.Tells e a) :
    ev.restate (queue.map Card.ofEdit)
      = (Session.change e.id (fun _ => a) queue).map Card.ofEdit := by
  unfold restate Session.change
  rw [List.map_map, List.map_map, hev.describes.editId, hev.describes.status, hev.id]
  refine List.map_congr_left fun b hb => ?_
  show (if some b.id = some e.id then { Card.ofEdit b with status := some a.status }
    else Card.ofEdit b) = Card.ofEdit (if b.id = e.id then a else b)
  by_cases hname : b.id = e.id
  · obtain rfl := List.inj_on_of_nodup_map hnodup hb he hname
    rw [if_pos rfl, if_pos rfl, Card.ofEdit, Card.ofEdit, hev.id, hev.filePath]
  · rw [if_neg fun h => hname (Option.some.inj h), if_neg hname]

/-- The card of an edit is found by its name. -/
theorem find?_map_ofEdit (hnodup : (Session.ids queue).Nodup) (he : e ∈ queue) :
    (queue.map Card.ofEdit).find? (·.editId == some e.id) = some (Card.ofEdit e) := by
  have hfound : queue.find? (·.id == e.id) = some e := Session.findIn_of_mem hnodup he
  rw [List.find?_map]
  show (queue.find? fun b => some b.id == some e.id).map Card.ofEdit = _
  simp only [Option.some_beq_some, hfound, Option.map_some]

end Event

namespace Session

variable {s t : Session} {events log : List Event} {e a : Edit} {ev : Event}

/-! ## The mirror is right -/

/-- **The journal mirrors the session.** -/
structure Mirrored (s : Session) (log : List Event) : Prop where
  /-- The events since all edits were forgotten tell of the queues. -/
  queues : Mirror.ofEvents (Event.sinceClear log) = Mirror.ofSession s
  /-- All that came in since then is in one of them. -/
  held : Event.submissions (Event.sinceClear log) = s.edits.length
  /-- Where edits were forgotten, all were that had come in since the time
  before. -/
  dropped : ∀ front ev, front ++ [ev] <+: log → ev.kind = .cleared →
    ev.dropped = some (Event.submissions (Event.sinceClear front) : Int)

/-- The mirror follows an edit that changes where it is. -/
theorem Sound.enter_change (hs : s.Sound) (hwaits : s.Waits e) (hev : ev.Tells e a)
    (hpending : t.pending = change e.id (fun _ => a) s.pending)
    (harchive : t.archive = s.archive) (hkind : ev.kind = .failed ∨ ev.kind = .rejected) :
    (Mirror.ofSession s).enter ev = Mirror.ofSession t := by
  have hcards := Event.restate_map_ofEdit hs.nodup_pending hwaits.mem hev
  unfold Mirror.enter Mirror.ofSession
  rw [hpending, harchive, ← hcards]
  rcases hkind with hkind | hkind
  · rw [hkind]
  · rw [hkind]

/-- The mirror follows an edit to the end of the archive. -/
theorem Sound.enter_applied (hs : s.Sound) (hwaits : s.Waits e) (hev : ev.Tells e a)
    (hpending : t.pending = s.pending.filter (·.id != e.id))
    (harchive : t.archive = s.archive ++ [a]) (hkind : ev.kind = .applied) :
    (Mirror.ofSession s).enter ev = Mirror.ofSession t := by
  have hcards := Event.restate_map_ofEdit hs.nodup_pending hwaits.mem hev
  have hname : ids (change e.id (fun _ => a) s.pending) = ids s.pending :=
    ids_change fun _ _ => hev.id
  have hfound : ((change e.id (fun _ => a) s.pending).map Card.ofEdit).find?
      (·.editId == some a.id) = some (Card.ofEdit a) :=
    Event.find?_map_ofEdit (hname ▸ hs.nodup_pending)
      ((mem_change_iff hev.id (mem_ids_of_mem hwaits.mem)).2 (Or.inl rfl))
  have hkept : (s.pending.map Card.ofEdit).filter (·.editId != some a.id)
      = (s.pending.filter (·.id != e.id)).map Card.ofEdit := by
    rw [List.filter_map, hev.id]
    rfl
  unfold Mirror.enter Mirror.ofSession
  rw [hkind]
  dsimp only
  rw [hcards, hev.describes.editId, hfound, hkept, hpending, harchive, List.map_append]
  rfl

/-- The numbers that the journal gives stay right, if the last one is. -/
theorem Mirrored.dropped_concat (h : s.Mirrored log)
    (hlast : ev.kind = .cleared →
      ev.dropped = some (Event.submissions (Event.sinceClear log) : Int)) :
    ∀ front last, front ++ [last] <+: log ++ [ev] → last.kind = .cleared →
      last.dropped = some (Event.submissions (Event.sinceClear front) : Int) := by
  intro front last hfront hcleared
  rcases List.prefix_concat_iff.1 hfront with heq | hfront
  · obtain ⟨rfl, rfl⟩ := List.append_singleton_inj.1 heq
    exact hlast hcleared
  · exact h.dropped front last hfront hcleared

/-- An event that forgets nothing leaves the journal right, if the mirror
follows it. -/
theorem Mirrored.concat (h : s.Mirrored log) (hkind : ev.kind ≠ .cleared)
    (hqueues : (Mirror.ofSession s).enter ev = Mirror.ofSession t)
    (hheld : s.edits.length + (if ev.kind == .submitted then 1 else 0) = t.edits.length) :
    t.Mirrored (log ++ [ev]) where
  queues := by
    rw [Event.sinceClear_concat hkind, Mirror.ofEvents, List.foldl_concat]
    exact (congrArg (·.enter ev) h.queues).trans hqueues
  held := by
    rw [Event.sinceClear_concat hkind, ← hheld, ← h.held, Event.submissions,
      List.countP_append, List.countP_singleton]
    rfl
  dropped := h.dropped_concat fun hcleared => absurd hcleared hkind

theorem length_change (id : EditId) (f : Edit → Edit) (queue : List Edit) :
    (change id f queue).length = queue.length :=
  List.length_map _

/-- Taking an edit out shortens a queue by one. -/
theorem length_filter_ne_add_one {queue : List Edit} (hnodup : (ids queue).Nodup)
    (he : e ∈ queue) : (queue.filter (·.id != e.id)).length + 1 = queue.length := by
  have hname := mem_ids_of_mem he
  have hlength : (ids (queue.filter (·.id != e.id))).length = (ids queue).length - 1 := by
    rw [ids_filter_ne, ← hnodup.erase_eq_filter, List.length_erase_of_mem hname]
  have hpos := List.length_pos_of_mem hname
  unfold ids at hlength hpos
  rw [List.length_map, List.length_map] at hlength
  rw [List.length_map] at hpos
  omega

/-- **Every announcement leaves the journal right.** -/
theorem Mirrored.step (h : s.Mirrored log) (hs : s.Sound) (hstep : Announces s events t) :
    t.Mirrored (log ++ events) := by
  cases hstep with
  | silent settings level _ =>
    rw [List.append_nil]
    exact ⟨h.queues, h.held, h.dropped⟩
  | submitted filePath diff =>
    refine h.concat nofun ?_ ?_
    · show Mirror.mk (_ ++ _) _ = Mirror.mk (List.map _ (_ ++ _)) _
      rw [List.map_append]
      rfl
    · show (s.pending ++ s.archive).length + 1 = (s.pending ++ [_] ++ s.archive).length
      simp only [List.length_append, List.length_singleton]
      omega
  | @applied e waits content strategies =>
    have hlength := length_filter_ne_add_one hs.nodup_pending waits.mem
    refine h.concat nofun ?_ ?_
    · exact hs.enter_applied waits (tells_ofApply e content strategies) rfl rfl rfl
    · show (s.pending ++ s.archive).length + 0
        = (s.pending.filter (fun b : Edit => b.id != e.id) ++ (s.archive ++ [_])).length
      simp only [List.length_append, List.length_singleton]
      omega
  | @failed e waits failure =>
    refine h.concat nofun ?_ ?_
    · exact hs.enter_change waits (tells_ofFailure e failure) rfl rfl (Or.inl rfl)
    · show (s.pending ++ s.archive).length = (change e.id _ s.pending ++ s.archive).length
      rw [List.length_append, List.length_append, length_change]
  | @rejected e waits =>
    refine h.concat nofun ?_ ?_
    · exact hs.enter_change waits (tells_ofReject e) rfl rfl (Or.inr rfl)
    · show (s.pending ++ s.archive).length = (change e.id _ s.pending ++ s.archive).length
      rw [List.length_append, List.length_append, length_change]
  | cleared =>
    have hnone : Event.sinceClear (log ++ [.ofClear (s.pending.length + s.archive.length)]) = [] :=
      Event.sinceClear_concat_of_cleared log rfl
    refine ⟨?_, ?_, ?_⟩
    · rw [hnone]
      rfl
    · rw [hnone]
      rfl
    · refine h.dropped_concat fun _ => ?_
      rw [h.held, edits, List.length_append]
      rfl

/-! ## No edit is told of twice -/

/-- Whether an edit of a name came in so far. -/
def hasIssued (s : Session) : EditId → Bool
  | .issued n => decide (n < s.issued)
  | .named _ => false

theorem Sound.hasIssued_of_waits (hs : s.Sound) (hwaits : s.Waits e) :
    s.hasIssued e.id = true := by
  obtain ⟨l, hl⟩ := hs.agrees
  obtain ⟨n, hn, hname⟩ := hl.exists_issued (mem_ids_of_mem hwaits.mem_edits)
  rw [hname]
  exact decide_eq_true hn

/-- **How often the journal tells of an edit.** -/
structure Counted (s : Session) (log : List Event) : Prop where
  /-- It came in once. -/
  submitted : ∀ id, log.countP (Event.submits id) = if s.hasIssued id then 1 else 0
  /-- It was settled at most once. -/
  settled : ∀ id, log.countP (Event.settles id) ≤ 1
  /-- An edit that waits was not settled. -/
  waiting : ∀ e, s.Waits e → log.countP (Event.settles e.id) = 0
  /-- Nor was one that is yet to come in. -/
  unissued : ∀ id, s.hasIssued id = false → log.countP (Event.settles id) = 0

/-- An event that settles an edit does not bring one in. -/
theorem submits_eq_false (hev : ev.Tells e a) (id : EditId) :
    ev.submits id = false := by
  have hkind : ev.kind ≠ .submitted := by
    intro hkind
    have hstatus := hev.describes.kind
    rw [hkind] at hstatus
    exact not_pending_of_isTerminal hev.terminal (Option.some.inj hstatus).symm
  rw [Event.submits, beq_eq_false_iff_ne.2 hkind, Bool.false_and]

/-- It settles the edit that it describes and no other one. -/
theorem settles_eq (hev : ev.Tells e a) (id : EditId) : ev.settles id = (e.id == id) := by
  rw [Event.settles, hev.describes.kind, hev.describes.editId, hev.id, Option.any_some,
    Option.some_beq_some]
  exact congrArg (· && _) hev.terminal

theorem hasIssued_congr (h : t.issued = s.issued) (id : EditId) :
    t.hasIssued id = s.hasIssued id := by
  unfold hasIssued
  rw [h]

/-- The next number is issued where an edit comes in. -/
theorem hasIssued_submit_iff (s : Session) (queue : List Edit) (id : EditId) :
    hasIssued { s with pending := queue, issued := s.issued + 1 } id = true
      ↔ s.hasIssued id = true ∨ id = .issued s.issued := by
  cases id with
  | issued n =>
    rw [hasIssued, hasIssued, decide_eq_true_iff, decide_eq_true_iff, EditId.issued.injEq]
    exact Nat.lt_succ_iff_lt_or_eq
  | named name => exact ⟨nofun, nofun⟩

/-- Where one edit that waits is settled, all counts stay right. -/
theorem Counted.settle (h : s.Counted log) (hs : s.Sound) (hwaits : s.Waits e)
    (hev : ev.Tells e a) (hissued : t.issued = s.issued)
    (hothers : ∀ b, t.Waits b → s.Waits b ∧ b.id ≠ e.id) : t.Counted (log ++ [ev]) := by
  have hsettles (id : EditId) : (log ++ [ev]).countP (Event.settles id)
      = log.countP (Event.settles id) + if e.id = id then 1 else 0 := by
    rw [List.countP_append, List.countP_singleton, settles_eq hev]
    simp only [beq_iff_eq]
  refine ⟨fun id => ?_, fun id => ?_, fun b hb => ?_, fun id hnot => ?_⟩
  · rw [List.countP_append, List.countP_singleton, submits_eq_false hev,
      hasIssued_congr hissued]
    exact h.submitted id
  · rw [hsettles]
    split
    · next hname =>
      -- the edit waited, so nothing of this kind was told of it
      rw [← hname, h.waiting e hwaits]
    · exact h.settled id
  · obtain ⟨hbefore, hne⟩ := hothers b hb
    rw [hsettles, if_neg (Ne.symm hne)]
    exact h.waiting b hbefore
  · rw [hasIssued_congr hissued] at hnot
    have hne : e.id ≠ id := by
      rintro rfl
      rw [hs.hasIssued_of_waits hwaits] at hnot
      exact absurd hnot nofun
    rw [hsettles, if_neg hne]
    exact h.unissued id hnot

/-- An edit that comes in is counted from then on. -/
theorem Counted.submit (h : s.Counted log) (filePath : Text) (diff : Diff) :
    Counted
      { s with
        pending := s.pending ++ [{ id := .issued s.issued, filePath, diff }]
        issued := s.issued + 1 }
      (log ++ [.ofSubmit { id := .issued s.issued, filePath, diff }]) := by
  have hnew : s.hasIssued (.issued s.issued) = false := decide_eq_false (Nat.lt_irrefl _)
  have hiff := s.hasIssued_submit_iff (s.pending ++ [{ id := .issued s.issued, filePath, diff }])
  refine ⟨fun id => ?_, fun id => ?_, fun b hb => ?_, fun id hnot => ?_⟩
  · rw [List.countP_append, List.countP_singleton, h.submitted]
    by_cases hname : id = .issued s.issued
    · rw [(hiff id).2 (Or.inr hname), hname, hnew]
      simp [Event.submits, Event.ofSubmit, Event.about]
    · rw [Bool.eq_iff_iff.2 ((hiff id).trans (or_iff_left hname))]
      simp [Event.submits, Event.ofSubmit, Event.about, Ne.symm hname]
  · rw [List.countP_append]
    exact h.settled id
  · rw [List.countP_append]
    rcases List.mem_append.1 hb.mem with hmem | hmem
    · exact h.waiting b ⟨hmem, hb.status⟩
    · rw [List.mem_singleton.1 hmem]
      exact h.unissued _ hnew
  · rw [List.countP_append]
    refine h.unissued id (Bool.eq_false_iff.2 fun hbefore => ?_)
    rw [(hiff id).2 (Or.inl hbefore)] at hnot
    exact absurd hnot nofun

/-- The edits that wait besides one that was settled where it was. -/
theorem waits_of_change {b : Edit} (hwaits : s.Waits e) (hev : ev.Tells e a)
    (hpending : t.pending = change e.id (fun _ => a) s.pending) (hb : t.Waits b) :
    s.Waits b ∧ b.id ≠ e.id := by
  have hmem := hb.mem
  rw [hpending, mem_change_iff hev.id (mem_ids_of_mem hwaits.mem)] at hmem
  rcases hmem with rfl | ⟨hmem, hne⟩
  · exact absurd hb.status (not_pending_of_isTerminal hev.terminal)
  · exact ⟨⟨hmem, hb.status⟩, hne⟩

/-- **Every announcement leaves the counts right.** -/
theorem Counted.step (h : s.Counted log) (hs : s.Sound) (hstep : Announces s events t) :
    t.Counted (log ++ events) := by
  cases hstep with
  | silent settings level _ =>
    rw [List.append_nil]
    exact ⟨h.submitted, h.settled, fun e he => h.waiting e ⟨he.mem, he.status⟩, h.unissued⟩
  | submitted filePath diff =>
    exact h.submit filePath diff
  | @applied e waits content strategies =>
    refine h.settle hs waits (tells_ofApply e content strategies) rfl fun b hb => ?_
    obtain ⟨hmem, hne⟩ := List.mem_filter.1 hb.mem
    exact ⟨⟨hmem, hb.status⟩, bne_iff_ne.1 hne⟩
  | @failed e waits failure =>
    exact h.settle hs waits (tells_ofFailure e failure) rfl fun b hb =>
      waits_of_change waits (tells_ofFailure e failure) rfl hb
  | @rejected e waits =>
    exact h.settle hs waits (tells_ofReject e) rfl fun b hb =>
      waits_of_change waits (tells_ofReject e) rfl hb
  | cleared =>
    refine ⟨fun id => ?_, fun id => ?_, fun e he => absurd he.mem List.not_mem_nil,
      fun id hnot => ?_⟩
    · rw [List.countP_append]
      exact h.submitted id
    · rw [List.countP_append]
      exact h.settled id
    · rw [List.countP_append]
      exact h.unissued id hnot

/-! ## Names that came in -/

/-- A step issues the name of the edit that comes in and no other one. -/
theorem Step.hasIssued_iff {deed : Deed} (hstep : Step s deed t) (id : EditId) :
    t.hasIssued id = true ↔ s.hasIssued id = true ∨ deed = .submitted id := by
  have hsame (h : t.issued = s.issued) (hdeed : deed ≠ .submitted id) :
      t.hasIssued id = true ↔ s.hasIssued id = true ∨ deed = .submitted id := by
    rw [hasIssued_congr h]
    exact (or_iff_left hdeed).symm
  cases hstep with
  | submit filePath diff =>
    rw [hasIssued_submit_iff, Deed.submitted.injEq]
    exact or_congr_right eq_comm
  | assign id' status => exact hsame (ids_setStatus s id' status).2.2 nofun
  | _ => exact hsame rfl nofun

/-- **The names issued in a run are those that its history submits.** -/
theorem Steps.hasIssued_iff {deeds : List Deed} (hsteps : Steps s deeds t) (id : EditId) :
    t.hasIssued id = true ↔ s.hasIssued id = true ∨ .submitted id ∈ deeds := by
  induction hsteps with
  | nil s => exact (or_iff_left List.not_mem_nil).symm
  | cons first later ih =>
    rw [ih, first.hasIssued_iff, List.mem_cons, or_assoc]
    exact or_congr_right (or_congr_left eq_comm)

/-! ## Runs -/

/-- **The journal of a run tells the whole story** of the session. -/
structure Journaled (s : Session) (requests : List Request) : Prop where
  /-- The events since all edits were forgotten make both queues again, name by
  name with file and status and in the same order. -/
  queues : Mirror.ofEvents (Event.sinceClear (s.run requests).events)
    = Mirror.ofSession (s.run requests).session
  /-- It tells of every edit once that it came in, and of no other one. -/
  submitted : ∀ id, (s.run requests).events.countP (Event.submits id)
    = if .submitted id ∈ s.history requests then 1 else 0
  /-- It tells of no edit twice that it was applied, failed or was turned
  down. -/
  settled : ∀ id, (s.run requests).events.countP (Event.settles id) ≤ 1
  /-- Each of its events, but for those that all edits were forgotten, says of
  an edit what it is in the session right after the event. -/
  describes : (s.journal requests).map Prod.fst = (s.run requests).events
    ∧ ∀ entry ∈ s.journal requests, entry.1.kind ≠ .cleared →
      ∃ e, entry.2.get? e.id = some e ∧ entry.1.Describes e
  /-- Where all edits were forgotten, it gives the number of those that had
  come in since the time before. -/
  dropped : ∀ front ev, front ++ [ev] <+: (s.run requests).events → ev.kind = .cleared →
    ev.dropped = some (Event.submissions (Event.sinceClear front) : Int)

/-- **The journal of every audible run tells the whole story**, if no status is
given from outside. -/
theorem run_journaled {settings : Settings} {level : Level} (hon : settings.telemetry = true)
    (hlevel : Level.info.passes level = true) {requests : List Request}
    (hinside : ∀ request ∈ requests, request.isInside = true)
    (haudible : ∀ request ∈ requests, request.keepsAudible = true) :
    (fresh settings level).Journaled requests := by
  have hloud : (fresh settings level).IsAudible := ⟨hon, hlevel⟩
  have hrecounts := recounts_journal hloud hinside haudible
  have hsound := sound_fresh settings level
  have hevents := map_fst_journal (fresh settings level) requests
  have hmirrored : (fresh settings level).Mirrored [] :=
    ⟨rfl, rfl, fun front ev h => absurd (List.prefix_nil.1 h) (by simp)⟩
  have hnone (id : EditId) : (fresh settings level).hasIssued id = false := by
    cases id <;> rfl
  have hcounted : (fresh settings level).Counted [] := by
    refine ⟨fun id => ?_, fun _ => Nat.zero_le _, fun _ _ => rfl, fun _ _ => rfl⟩
    rw [hnone]
    rfl
  have hmirror := hrecounts.keeps (fun hs hstep h => h.step hs hstep) hsound hmirrored
  have hcounts := hrecounts.keeps (fun hs hstep h => h.step hs hstep) hsound hcounted
  rw [List.nil_append, hevents] at hmirror hcounts
  refine ⟨hmirror.queues, fun id => ?_, hcounts.settled, ⟨hevents, hrecounts.describes hsound⟩,
    hmirror.dropped⟩
  have hissued := (steps_run (fresh settings level) requests).hasIssued_iff id
  rw [hnone, or_iff_right Bool.false_ne_true] at hissued
  rw [hcounts.submitted]
  exact if_congr hissued rfl rfl

/-- Edits of two files, some before all are forgotten and some after. One fails,
one is turned down, some are applied out of order or all at once, and on the way
the settings and the level change. -/
def loudRequests : List Request :=
  let submit (path : Text) : Request := .submit (.text path)
    (some { hunks := [{ oldLines := [['a']], newLines := [['b']] }], oldContent := ['a'] })
  [submit ['f'], submit ['g'], .apply (.issued 0) none, .setJournalLevel .debug, .clear, .clear,
   submit ['g'], submit ['f'], submit ['f'], submit ['g'], submit ['f'],
   .apply (.issued 5) (some ['x']), .configure { Settings.standard with previewLines := 1 },
   .reject (.issued 3), .apply (.issued 6) none, .preview (.issued 2) none, .apply (.issued 0) none,
   .applyAll (some [(['f'], ['a'])]), submit ['g'], .rejectAll, submit ['f'], .get (.issued 8)]

theorem run_journaled_loud :
    Settings.standard.telemetry = true ∧ Level.info.passes .info = true
      ∧ (∀ request ∈ loudRequests, request.isInside = true)
      ∧ (∀ request ∈ loudRequests, request.keepsAudible = true)
      ∧ (fresh .standard .info).Journaled loudRequests := by
  have hinside : ∀ request ∈ loudRequests, request.isInside = true := by
    unfold loudRequests
    simp [Request.isInside]
  have haudible : ∀ request ∈ loudRequests, request.keepsAudible = true := by
    unfold loudRequests
    simp [Request.keepsAudible, Settings.standard, Level.passes, Level.info, Level.debug]
  exact ⟨rfl, rfl, hinside, haudible, run_journaled rfl rfl hinside haudible⟩

/-- The queues that its journal tells of. -/
example :
    let card (n : Nat) (path : Text) (status : Status) : Card :=
      ⟨some (.issued n), some path, some status⟩
    Mirror.ofEvents (Event.sinceClear ((fresh .standard .info).run loudRequests).events)
      = { pending := [card 3 ['f'] .rejected, card 5 ['g'] .failed, card 7 ['g'] .rejected,
            card 8 ['f'] .pending]
          archive := [card 6 ['f'] .applied, card 2 ['g'] .applied, card 4 ['f'] .applied] } := by
  decide +kernel

end Session

end DriftPatch
