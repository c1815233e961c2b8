import DriftPatch.Proofs.Replay.Atomic
import DriftPatch.Proofs.Session.Preview

/-!
# Settings decide nothing but words

What the user has chosen is looked at in two places of a session. A failure
shows as much of the lines looked for as the user wants to see, and events are
reported or not. Neither has a say in what becomes of an edit.

To say so, all that the settings can decide is left out: `unworded` takes the
lines shown from a failure, the text from the report that is kept with an edit,
and the settings and the level of the journal from a session. What an operation
answers and leaves behind is then a matter of what is left of the session
(`Session.silenced_perform`), and two sessions that are asked for the same
operations look the same all along, whatever is chosen in each of them at any
time (`Session.run_seen`).
-/

namespace DriftPatch

/-- The failure without the lines that it shows. -/
def Failure.unworded (f : Failure) : Failure :=
  { f with expected := [] }

/-- The outcome without the lines that its failure shows. -/
def Outcome.unworded (o : Outcome) : Outcome :=
  { o with failure := o.failure.map Failure.unworded }

/-- The edit without the text of its report. Whether there is a report is left
to be seen. -/
def Edit.unworded (e : Edit) : Edit :=
  { e with error := e.error.map fun _ => [] }

/-- The answer without what failures show and reports say. -/
def Answer.unworded : Answer → Answer
  | .outcome o => .outcome (o.map Outcome.unworded)
  | .found e => .found (e.map Edit.unworded)
  | answer => answer

/-- The session without the texts of reports, as if nothing had been chosen. -/
def Session.unworded (s : Session) : Session :=
  { s with
    settings := .standard
    pending := s.pending.map Edit.unworded
    archive := s.archive.map Edit.unworded
    journalLevel := .info }

/-- The effect without what is reported and noticed, on a session without
words. -/
def Effect.silenced {α : Type} (e : Effect α) : Effect α :=
  { session := e.session.unworded, answer := e.answer }

/-- Whether a request is for the edits of a session, and not to choose
something. -/
def Request.isOperation : Request → Bool
  | .configure _ | .setJournalLevel _ => false
  | _ => true

/-! ## Hunks are placed wherever they are, whatever is shown of them -/

namespace Outcome

theorem ok_unworded (o : Outcome) : o.unworded.ok = o.ok :=
  Option.isNone_map

theorem unworded_followedBy (o p : Outcome) :
    (o.followedBy p).unworded = o.unworded.followedBy p.unworded :=
  rfl

variable {o p : Outcome}

theorem ok_eq_of_unworded (h : o.unworded = p.unworded) : o.ok = p.ok := by
  rw [← ok_unworded, h, ok_unworded]

theorem content_eq_of_unworded (h : o.unworded = p.unworded) : o.content = p.content := by
  rw [Outcome.mk.injEq] at h
  exact h.1

end Outcome

section Excerpts

variable (excerpt excerpt' : Excerpt) (content : Text)

theorem Hunk.unworded_applyTo (h : Hunk) (offset : Int) :
    (h.applyTo excerpt offset content).unworded
      = (h.applyTo excerpt' offset content).unworded := by
  rcases h.applyTo_cases excerpt offset content with
    ⟨hbody, e⟩ | ⟨hbody, strategy, text, hplace, e⟩ | ⟨hbody, hplace, e⟩
  · rw [e, Hunk.applyTo, hbody]
    rfl
  · rw [e, Hunk.applyTo, hbody, hplace]
    rfl
  · rw [e, Hunk.applyTo, hbody, hplace]
    rfl

theorem unworded_runHunks (index : Nat) (offset : Int) (hunks : List Hunk) :
    (runHunks excerpt index offset content hunks).unworded
      = (runHunks excerpt' index offset content hunks).unworded := by
  induction hunks generalizing index offset content with
  | nil => rfl
  | cons h hunks ih =>
    have hfirst := h.unworded_applyTo excerpt excerpt' content offset
    rw [runHunks_cons, runHunks_cons, Outcome.ok_eq_of_unworded hfirst,
      Outcome.content_eq_of_unworded hfirst]
    split
    · rw [Outcome.unworded_followedBy, Outcome.unworded_followedBy, hfirst, ih]
    · rfl

/-- **What is shown of a failure decides nothing about it.** -/
theorem unworded_applyHunks (hunks : List Hunk) :
    (applyHunks excerpt content hunks).unworded
      = (applyHunks excerpt' content hunks).unworded := by
  have hrun := unworded_runHunks excerpt excerpt' content 0 0 hunks
  unfold applyHunks
  dsimp only
  rw [Outcome.ok_eq_of_unworded hrun]
  split
  · exact hrun
  · exact congrArg (fun o : Outcome => { o with content }) hrun

end Excerpts

/-! ## Edits and queues -/

/-- **Two edits look the same** if they agree in all but the text of a report, and a
report is kept with both of them or with none. -/
theorem Edit.unworded_eq_iff {e a : Edit} : e.unworded = a.unworded ↔
    e.id = a.id ∧ e.filePath = a.filePath ∧ e.diff = a.diff ∧ e.status = a.status
      ∧ e.error.isSome = a.error.isSome ∧ e.result = a.result ∧ e.timestamp = a.timestamp := by
  have herror : e.error.map (fun _ => ([] : Text)) = a.error.map (fun _ => [])
      ↔ e.error.isSome = a.error.isSome := by
    cases e.error <;> cases a.error <;> simp
  unfold Edit.unworded
  rw [Edit.mk.injEq, herror]

namespace Session

variable {s t : Session} {e a : Edit} {id : EditId} {queue : List Edit}

theorem findIn_map_unworded (id : EditId) (queue : List Edit) :
    findIn id (queue.map Edit.unworded) = (findIn id queue).map Edit.unworded :=
  List.find?_map

/-- A change to edits that words have no part in. -/
theorem map_unworded_change {f g : Edit → Edit} (h : ∀ e, (f e).unworded = g e.unworded) :
    (change id f queue).map Edit.unworded = change id g (queue.map Edit.unworded) := by
  unfold change
  rw [List.map_map, List.map_map]
  refine List.map_congr_left fun e _ => ?_
  show (if e.id = id then f e else e).unworded = if e.id = id then g e.unworded else e.unworded
  rw [← h]
  split <;> rfl

/-- An edit is replaced, by the same but for words. -/
theorem map_unworded_change_const {queue' : List Edit} (he : e.unworded = a.unworded)
    (hqueue : queue.map Edit.unworded = queue'.map Edit.unworded) :
    (change id (fun _ => e) queue).map Edit.unworded
      = (change id (fun _ => a) queue').map Edit.unworded := by
  rw [map_unworded_change (g := fun _ => e.unworded) fun _ => rfl,
    map_unworded_change (g := fun _ => e.unworded) fun _ => he.symm, hqueue]

theorem map_unworded_filter (p : Edit → Bool) (h : ∀ e, p e.unworded = p e) (queue : List Edit) :
    (queue.filter p).map Edit.unworded = (queue.map Edit.unworded).filter p := by
  rw [List.filter_map]
  exact congrArg (List.map _) (List.filter_congr fun e _ => (h e).symm)

/-! ## What sessions have in common -/

/-- **Two sessions look the same** but for words. -/
theorem unworded_eq_iff : s.unworded = t.unworded ↔
    s.pending.map Edit.unworded = t.pending.map Edit.unworded
      ∧ s.archive.map Edit.unworded = t.archive.map Edit.unworded
      ∧ s.applying = t.applying ∧ s.issued = t.issued := by
  unfold unworded
  rw [Session.mk.injEq]
  simp

section Unworded

variable (h : s.unworded = t.unworded)
include h

/-- **The same edit is found under a name**, but for words. -/
theorem unworded_get? (id : EditId) :
    (s.get? id).map Edit.unworded = (t.get? id).map Edit.unworded := by
  obtain ⟨hpending, harchive, -, -⟩ := unworded_eq_iff.1 h
  rw [get?_eq_findIn, get?_eq_findIn, ← findIn_map_unworded, ← findIn_map_unworded, edits, edits,
    List.map_append, List.map_append, hpending, harchive]

theorem findIn_pending_of_unworded (id : EditId) :
    (findIn id s.pending).map Edit.unworded = (findIn id t.pending).map Edit.unworded := by
  rw [← findIn_map_unworded, (unworded_eq_iff.1 h).1, findIn_map_unworded]

/-- The same edit waits under a name, or none does, and for the same reason. -/
theorem waiting_of_unworded (id : EditId) :
    (∃ notice, s.waiting id = .error notice ∧ t.waiting id = .error notice)
      ∨ ∃ e a, s.waiting id = .ok e ∧ t.waiting id = .ok a ∧ e.unworded = a.unworded := by
  have hfound := findIn_pending_of_unworded h id
  unfold waiting
  cases hs : findIn id s.pending with
  | none =>
    rw [hs, Option.map_none, eq_comm, Option.map_eq_none_iff] at hfound
    rw [hfound]
    exact Or.inl ⟨_, rfl, rfl⟩
  | some e =>
    rw [hs, Option.map_some, eq_comm, Option.map_eq_some_iff] at hfound
    obtain ⟨a, ha, hsame⟩ := hfound
    obtain ⟨-, -, -, hstatus, -⟩ := Edit.unworded_eq_iff.1 hsame
    rw [ha]
    dsimp only
    rw [hstatus]
    split
    · exact Or.inr ⟨e, a, rfl, rfl, hsame.symm⟩
    · exact Or.inl ⟨_, rfl, rfl⟩

end Unworded

/-- What applying an edit comes to is the same, but for the lines shown. -/
theorem unworded_outcomeOf (s t : Session) (he : e.unworded = a.unworded)
    (content : Option Text) :
    (s.outcomeOf e content).unworded = (t.outcomeOf a content).unworded := by
  obtain ⟨-, -, hdiff, -⟩ := Edit.unworded_eq_iff.1 he
  unfold outcomeOf baseText
  rw [hdiff]
  exact unworded_applyHunks _ _ _ _

/-- An edit fails in both sessions or in none. -/
theorem failure_of_unworded {o p : Outcome} (h : o.unworded = p.unworded) :
    (o.failure = none ∧ p.failure = none)
      ∨ ∃ f g, o.failure = some f ∧ p.failure = some g := by
  have hok := Outcome.ok_eq_of_unworded h
  unfold Outcome.ok at hok
  cases ho : o.failure with
  | none =>
    rw [ho] at hok
    exact Or.inl ⟨rfl, Option.isNone_iff_eq_none.1 hok.symm⟩
  | some f =>
    rw [ho] at hok
    obtain ⟨g, hg⟩ := Option.isSome_iff_exists.1 (Option.isNone_eq_false_iff.1 hok.symm)
    exact Or.inr ⟨f, g, rfl, hg⟩

/-! ## What an operation comes to -/

theorem silenced_eq_of {α : Type} {first second : Effect α}
    (hanswer : first.answer = second.answer)
    (hsession : first.session.unworded = second.session.unworded) :
    first.silenced = second.silenced := by
  unfold Effect.silenced
  rw [hanswer, hsession]

/-- One operation after another leaves what the last one leaves. -/
theorem silenced_andThen_map {α β γ : Type} (first : Effect α) (next : Session → Effect β)
    (f : β → γ) :
    (first.andThen fun s => (next s).map f).silenced = (next first.session).silenced.map f :=
  rfl

section Operations

variable (h : s.unworded = t.unworded)
include h

theorem silenced_submit (filePath : Text) (diff : Diff) :
    (s.submit filePath diff).silenced = (t.submit filePath diff).silenced := by
  obtain ⟨hpending, harchive, happlying, hissued⟩ := unworded_eq_iff.1 h
  refine silenced_eq_of (congrArg EditId.issued hissued)
    (unworded_eq_iff.2 ⟨?_, harchive, happlying, congrArg (· + 1) hissued⟩)
  show List.map _ (_ ++ _) = List.map _ (_ ++ _)
  rw [List.map_append, List.map_append, hpending, hissued]

/-- **Applying an edit**: the placing of the hunks decides, and what is shown of
a failure goes into words only. -/
theorem silenced_apply (id : EditId) (content : Option Text) :
    (s.apply id content).silenced = (t.apply id content).silenced := by
  obtain ⟨hpending, harchive, -, hissued⟩ := unworded_eq_iff.1 h
  rcases waiting_of_unworded h id with ⟨notice, hs, ht⟩ | ⟨e, a, hs, ht, he⟩
  · rw [apply_of_error hs, apply_of_error ht]
    exact silenced_eq_of rfl h
  · have houtcome := unworded_outcomeOf s t he content
    rcases failure_of_unworded houtcome with ⟨hsok, htok⟩ | ⟨f, g, hsfails, htfails⟩
    · have happlied : (asApplied e (s.outcomeOf e content).content).unworded
          = (asApplied a (t.outcomeOf a content).content).unworded := by
        rw [Outcome.content_eq_of_unworded houtcome]
        exact (congrArg (asApplied · (t.outcomeOf a content).content) he :)
      rw [apply_of_ok hs hsok, apply_of_ok ht htok]
      refine silenced_eq_of rfl (unworded_eq_iff.2 ⟨?_, ?_, rfl, hissued⟩)
      · show List.map _ (List.filter _ _) = List.map _ (List.filter _ _)
        rw [map_unworded_filter _ fun _ => rfl, map_unworded_filter _ fun _ => rfl, hpending]
      · show List.map _ (_ ++ _) = List.map _ (_ ++ _)
        rw [List.map_append, List.map_append, harchive, List.map_singleton, List.map_singleton,
          happlied]
    · have hfailed : (asFailed e f).unworded = (asFailed a g).unworded :=
        congrArg (fun e : Edit => { e with status := .failed, error := some [] }) he
      rw [apply_of_failure hs hsfails, apply_of_failure ht htfails]
      exact silenced_eq_of rfl
        (unworded_eq_iff.2 ⟨map_unworded_change_const hfailed hpending, harchive, rfl, hissued⟩)

theorem silenced_reject (id : EditId) : (s.reject id).silenced = (t.reject id).silenced := by
  obtain ⟨hpending, harchive, happlying, hissued⟩ := unworded_eq_iff.1 h
  rcases waiting_of_unworded h id with ⟨notice, hs, ht⟩ | ⟨e, a, hs, ht, he⟩
  · rw [reject_of_error hs, reject_of_error ht]
    exact silenced_eq_of rfl h
  · have hrejected : (asRejected e).unworded = (asRejected a).unworded := congrArg asRejected he
    rw [reject_of_ok hs, reject_of_ok ht]
    exact silenced_eq_of rfl (unworded_eq_iff.2
      ⟨map_unworded_change_const hrejected hpending, harchive, happlying, hissued⟩)

theorem silenced_preview (id : EditId) (content : Option Text) :
    ((s.preview id content).map (Option.map Outcome.unworded)).silenced
      = ((t.preview id content).map (Option.map Outcome.unworded)).silenced := by
  rcases waiting_of_unworded h id with ⟨notice, hs, ht⟩ | ⟨e, a, hs, ht, he⟩
  · rw [preview_of_error hs, preview_of_error ht]
    exact silenced_eq_of rfl h
  · rw [preview_of_ok hs, preview_of_ok ht]
    exact silenced_eq_of (congrArg some (unworded_outcomeOf s t he content)) h

theorem unworded_setStatus (id : EditId) (status : Status) :
    (s.setStatus id status).unworded = (t.setStatus id status).unworded := by
  obtain ⟨hpending, harchive, happlying, hissued⟩ := unworded_eq_iff.1 h
  have hfound : (findIn id s.pending).isSome = (findIn id t.pending).isSome := by
    have hsame := congrArg Option.isSome (findIn_pending_of_unworded h id)
    rwa [Option.isSome_map, Option.isSome_map] at hsame
  have hset (queue : List Edit) :
      (change id (fun e => { e with status }) queue).map Edit.unworded
        = change id (fun e => { e with status }) (queue.map Edit.unworded) :=
    map_unworded_change fun _ => rfl
  unfold setStatus
  dsimp only
  rw [hfound]
  split
  · refine unworded_eq_iff.2 ⟨?_, harchive, happlying, hissued⟩
    show List.map _ (change _ _ _) = List.map _ (change _ _ _)
    rw [hset, hset, hpending]
  · refine unworded_eq_iff.2 ⟨hpending, ?_, happlying, hissued⟩
    show List.map _ (change _ _ _) = List.map _ (change _ _ _)
    rw [hset, hset, harchive]

/-- The texts of files are carried over alike. -/
theorem carryOver_of_unworded (he : e.unworded = a.unworded) (texts : Texts) :
    s.carryOver e texts = t.carryOver a texts := by
  obtain ⟨hid, hpath, -⟩ := Edit.unworded_eq_iff.1 he
  have hresult : (s.get? a.id).bind (·.result) = (t.get? a.id).bind (·.result) := by
    have hsame := congrArg (Option.bind · Edit.result) (unworded_get? h a.id)
    rwa [Option.bind_map, Option.bind_map] at hsame
  unfold carryOver
  rw [hid, hpath, hresult]

end Operations

/-! ## Batches -/

/-- **Edits are applied in turn** from texts of files that are the same in both
sessions, and the texts stay the same. -/
theorem silenced_applyEach {es es' : List Edit}
    (hes : es.map Edit.unworded = es'.map Edit.unworded)
    (texts : Texts) (h : s.unworded = t.unworded) :
    (applyEach es texts s).silenced = (applyEach es' texts t).silenced := by
  induction es generalizing es' texts s t with
  | nil =>
    rw [List.map_nil, eq_comm, List.map_eq_nil_iff] at hes
    rw [hes]
    exact silenced_eq_of rfl h
  | cons e es ih =>
    obtain ⟨a, es', rfl, he, hes⟩ := List.map_eq_cons_iff.1 hes.symm
    obtain ⟨hid, hpath, -⟩ := Edit.unworded_eq_iff.1 he
    unfold applyEach
    rw [hid, hpath]
    have hfirst := silenced_apply h e.id (texts.text? e.filePath)
    generalize s.apply e.id (texts.text? e.filePath) = first at hfirst ⊢
    generalize t.apply e.id (texts.text? e.filePath) = first' at hfirst ⊢
    have hanswer : first.answer = first'.answer := (congrArg Effect.answer hfirst :)
    have hsession : first.session.unworded = first'.session.unworded :=
      (congrArg Effect.session hfirst :)
    have hcarry : first.session.carryOver e = first'.session.carryOver a :=
      funext fun texts => carryOver_of_unworded hsession he.symm texts
    dsimp only
    rw [hanswer, hcarry, silenced_andThen_map, silenced_andThen_map, ih hes.symm _ hsession]

theorem silenced_applyAll (contents : Option (Table Text Text)) (h : s.unworded = t.unworded) :
    (s.applyAll contents).silenced = (t.applyAll contents).silenced := by
  refine silenced_applyEach ?_ (.copied contents) h
  rw [map_unworded_filter _ fun _ => rfl, map_unworded_filter _ fun _ => rfl,
    (unworded_eq_iff.1 h).1]

theorem silenced_rejectEach (ids : List EditId) (h : s.unworded = t.unworded) :
    (rejectEach ids s).silenced = (rejectEach ids t).silenced := by
  induction ids generalizing s t with
  | nil => exact silenced_eq_of rfl h
  | cons id ids ih =>
    have hfirst := silenced_reject h id
    unfold rejectEach
    generalize s.reject id = first at hfirst ⊢
    generalize t.reject id = first' at hfirst ⊢
    have hanswer : first.answer = first'.answer := (congrArg Effect.answer hfirst :)
    dsimp only
    rw [hanswer, silenced_andThen_map, silenced_andThen_map,
      ih (congrArg Effect.session hfirst :)]

theorem silenced_rejectAll (h : s.unworded = t.unworded) :
    s.rejectAll.silenced = t.rejectAll.silenced := by
  have hids : s.pending.map (·.id) = t.pending.map (·.id) := by
    have hsame := congrArg (List.map (·.id)) (unworded_eq_iff.1 h).1
    rwa [List.map_map, List.map_map] at hsame
  unfold rejectAll
  rw [hids]
  exact silenced_rejectEach _ h

/-! ## Requests -/

/-- **An operation is answered the same** in two sessions that are the same but
for words, and they stay so. -/
theorem silenced_perform {request : Request} (hoperation : request.isOperation = true)
    (h : s.unworded = t.unworded) :
    ((s.perform request).map Answer.unworded).silenced
      = ((t.perform request).map Answer.unworded).silenced := by
  cases request with
  | submit filePath diff =>
    rw [perform, perform]
    cases Edit.draft filePath diff with
    | invalid problems =>
      refine silenced_eq_of ?_ h
      rfl
    | valid checked => exact congrArg (Effect.map Answer.issued) (silenced_submit h _ _)
  | apply id content => exact congrArg (Effect.map Answer.done) (silenced_apply h id content)
  | preview id content =>
    exact congrArg (Effect.map Answer.outcome) (silenced_preview h id content)
  | applyAll contents =>
    exact congrArg (Effect.map fun batch : Batch => Answer.tally batch.tally batch.texts.given)
      (silenced_applyAll contents h)
  | reject id => exact congrArg (Effect.map Answer.done) (silenced_reject h id)
  | rejectAll => exact congrArg (Effect.map Answer.count) (silenced_rejectAll h)
  | clear =>
    obtain ⟨-, -, happlying, hissued⟩ := unworded_eq_iff.1 h
    exact silenced_eq_of rfl (unworded_eq_iff.2 ⟨rfl, rfl, happlying, hissued⟩)
  | get id => exact silenced_eq_of (congrArg Answer.found (unworded_get? h id)) h
  | setStatus id status => exact silenced_eq_of rfl (unworded_setStatus h id status)
  | configure settings => exact absurd hoperation Bool.false_ne_true
  | setJournalLevel level => exact absurd hoperation Bool.false_ne_true

/-- What is chosen is nothing but words. -/
theorem unworded_perform_of_not_isOperation {request : Request}
    (hchoice : request.isOperation = false) (s : Session) :
    (s.perform request).session.unworded = s.unworded := by
  cases request with
  | configure settings => rfl
  | setJournalLevel level => rfl
  | _ => exact nomatch hchoice

/-! ## Runs -/

/-- **What is to be seen of a run**: after each operation its answer and the
session, but for words. -/
def seen (s : Session) : List Request → List (Effect Answer)
  | [] => []
  | request :: rest =>
    let first := s.perform request
    if request.isOperation then
      (first.map Answer.unworded).silenced :: first.session.seen rest
    else first.session.seen rest

/-- What is to be seen of a run depends neither on what is chosen on the way nor
on what was chosen at the start. -/
theorem seen_eq_seen_filter (requests : List Request) (h : s.unworded = t.unworded) :
    s.seen requests = t.seen (requests.filter (·.isOperation)) := by
  induction requests generalizing s t with
  | nil => rfl
  | cons request requests ih =>
    cases hoperation : request.isOperation with
    | true =>
      have hfirst := silenced_perform hoperation h
      have hsession : (s.perform request).session.unworded
          = (t.perform request).session.unworded := (congrArg Effect.session hfirst :)
      rw [List.filter_cons_of_pos hoperation, seen, seen, if_pos hoperation, if_pos hoperation,
        hfirst, ih hsession]
    | false =>
      have hkept := unworded_perform_of_not_isOperation hoperation s
      rw [List.filter_cons_of_neg (Bool.not_eq_true _ ▸ hoperation), seen,
        if_neg (Bool.not_eq_true _ ▸ hoperation), ih (hkept.trans h)]

/-- **What is chosen shows in words only.** Two sessions with any settings and
levels of their journals are asked for the same operations, and in each of them
the settings and the level may be changed at any time in between. Then after
each operation the answers are the same and so are the sessions, but for the
lines that failures show and the texts of the reports that are kept. -/
theorem run_seen (settings settings' : Settings) (level level' : Level)
    {left right : List Request}
    (h : left.filter (·.isOperation) = right.filter (·.isOperation)) :
    (fresh settings level).seen left = (fresh settings' level').seen right := by
  have hleft := seen_eq_seen_filter (s := fresh settings level) (t := fresh settings level) left rfl
  have hright := seen_eq_seen_filter (s := fresh settings' level') (t := fresh settings level)
    right rfl
  rw [hleft, hright, h]

/-- Settings that show nothing of a failure and report nothing. -/
def mute : Settings :=
  { Settings.standard with previewLines := 0, telemetry := false }

/-- Requests for an edit that fails. -/
def failingRequests : List Request :=
  [.submit (.text ['f']) (some { oldContent := ['b'], hunks := [{ oldLines := [['a']] }] }),
   .preview (.issued 0) none, .apply (.issued 0) none]

/-- A session is muted before an edit fails in it, and then the text of the report
is another one, and nothing is reported. Nothing else is to be seen of that. -/
theorem run_seen_failing :
    (((fresh .standard .info).run failingRequests).session.get? (.issued 0)).bind (·.error)
        ≠ (((fresh .standard .info).run (.configure mute :: failingRequests)).session.get?
            (.issued 0)).bind (·.error)
      ∧ ((fresh .standard .info).run failingRequests).events.length = 2
      ∧ ((fresh .standard .info).run (.configure mute :: failingRequests)).events = []
      ∧ (fresh .standard .info).seen failingRequests
        = (fresh .standard .info).seen (.configure mute :: failingRequests) := by
  refine ⟨by decide, rfl, rfl, run_seen .standard .standard .info .info ?_⟩
  -- the change of settings is passed over
  rfl

end Session

end DriftPatch
