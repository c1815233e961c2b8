import DriftPatch.Notice
import DriftPatch.Settings.Basic

/-!
# Editing sessions

A **session** keeps the edits of one editing session in two queues: those
that were submitted and not yet applied, in the order of submission, and
the archive of those that were applied, in the order of application.
Edits that failed or were rejected stay in the first queue, to be looked
at, but they are never tried again.

Every operation takes a session to an `Effect`: the session afterwards,
the answer, the events for the journal, and the notices. A session reads
and writes no files: the text to change comes with the request, and the
text that was made is kept with the edit.
-/

namespace DriftPatch

/-- **The state of an editing session.** -/
structure Session where
  /-- What the user has chosen. -/
  settings : Settings := .standard
  /-- The edits that were not applied, in order of submission. -/
  pending : List Edit := []
  /-- The edits that were applied, in order of application. -/
  archive : List Edit := []
  /-- Whether an edit is being applied at this moment. -/
  applying : Bool := false
  /-- How many edits were issued a number. -/
  issued : Nat := 0
  /-- The level in effect for the journal. -/
  journalLevel : Level := .info

/-- **What an operation does**: to the session, and besides. -/
structure Effect (α : Type) where
  /-- The session afterwards. -/
  session : Session
  /-- The answer to the request. -/
  answer : α
  /-- The events that were reported, in order. -/
  events : List Event := []
  /-- What was noticed, in order. -/
  notices : List Notice := []

namespace Effect

/-- The effect with its answer changed. -/
def map {α β : Type} (f : α → β) (e : Effect α) : Effect β :=
  { session := e.session, answer := f e.answer, events := e.events, notices := e.notices }

/-- The effect of one operation after another. -/
def andThen {α β : Type} (first : Effect α) (next : Session → Effect β) : Effect β :=
  let second := next first.session
  { second with
    events := first.events ++ second.events
    notices := first.notices ++ second.notices }

end Effect

namespace Session

/-! ## Looking at the queues -/

/-- The edit of a name in a queue. -/
def findIn (id : EditId) (queue : List Edit) : Option Edit :=
  queue.find? (·.id == id)

/-- **The edit of a name**, in either queue. -/
def get? (s : Session) (id : EditId) : Option Edit :=
  (findIn id s.pending).or (findIn id s.archive)

/-- The edit of a name that waits to be applied, or why there is none. -/
def waiting (s : Session) (id : EditId) : Except Notice Edit :=
  match findIn id s.pending with
  | none => .error (.unknownEdit id)
  | some e => if e.status = .pending then .ok e else .error (.notPending id e.status)

/-- The events to report when one happens: none, if the user or the level
of the journal keeps it silent. -/
def report (s : Session) (e : Event) : List Event :=
  if s.settings.telemetry && Level.info.passes s.journalLevel then [e] else []

/-- A queue with a change made to the edit of a name. -/
def change (id : EditId) (f : Edit → Edit) (queue : List Edit) : List Edit :=
  queue.map fun e => if e.id = id then f e else e

/-! ## Operations -/

/-- **Submitting an edit**: the diff waits under the next number. -/
def submit (s : Session) (filePath : Text) (diff : Diff) : Effect EditId :=
  let e : Edit := { id := .issued s.issued, filePath, diff }
  { session := { s with pending := s.pending ++ [e], issued := s.issued + 1 }
    answer := e.id
    events := s.report (.ofSubmit e) }

/-- The text that an edit is applied to: the one given, or else the one
its diff was made from. -/
def baseText (e : Edit) (content : Option Text) : Text :=
  content.getD e.diff.oldContent

/-- What applying an edit comes to. -/
def outcomeOf (s : Session) (e : Edit) (content : Option Text) : Outcome :=
  applyHunks s.settings.excerpt (baseText e content) e.diff.hunks

/-- What is noticed when an edit is applied. -/
def noticesOf (s : Session) (e : Edit) (content : Option Text) : List Notice :=
  Notice.ofHunks s.settings.excerpt (baseText e content) e.diff.hunks

/-- **Trying an edit out**: what applying it would come to. Only an edit
that waits is tried. -/
def preview (s : Session) (id : EditId) (content : Option Text) : Effect (Option Outcome) :=
  match s.waiting id with
  | .error notice => { session := s, answer := none, notices := [notice] }
  | .ok e =>
    { session := s, answer := some (s.outcomeOf e content), notices := s.noticesOf e content }

/-- The session in which an edit is being applied. -/
def start (s : Session) (id : EditId) : Session :=
  { s with
    pending := change id (fun e => { e with status := .applying }) s.pending
    applying := true }

/-- The edit once it was applied, with the text it made. -/
def asApplied (e : Edit) (content : Text) : Edit :=
  { e with status := .applied, error := none, result := some content }

/-- The edit once it failed, with the report. -/
def asFailed (e : Edit) (failure : Failure) : Edit :=
  { e with status := .failed, error := some failure.message }

/-- The edit once it was turned down. -/
def asRejected (e : Edit) : Edit :=
  { e with status := .rejected }

/-- The session in which an edit has been applied: it has moved to the
end of the archive. -/
def finish (s : Session) (e : Edit) : Session :=
  { s with
    pending := s.pending.filter (·.id != e.id)
    archive := s.archive ++ [e]
    applying := false }

/-- The session in which an edit has failed: it stays where it was. -/
def giveUp (s : Session) (e : Edit) : Session :=
  { s with pending := change e.id (fun _ => e) s.pending, applying := false }

/-- **Applying an edit**, all of its hunks or none. Only an edit that
waits is applied; the answer says whether it was. -/
def apply (s : Session) (id : EditId) (content : Option Text) : Effect Bool :=
  match s.waiting id with
  | .error notice => { session := s, answer := false, notices := [notice] }
  | .ok e =>
    let outcome := s.outcomeOf e content
    match outcome.failure with
    | some failure =>
      let failed := asFailed e failure
      { session := (s.start id).giveUp failed
        answer := false
        events := s.report (.ofFailure failed failure)
        notices := s.noticesOf e content
          ++ [.editFailed e.id e.filePath failure.hunkIndex] }
    | none =>
      let applied := asApplied e outcome.content
      { session := (s.start id).finish applied
        answer := true
        events := s.report (.ofApply applied outcome.strategies)
        notices := s.noticesOf e content }

/-- **Turning an edit down.** Only an edit that waits is turned down; the
answer says whether it was. -/
def reject (s : Session) (id : EditId) : Effect Bool :=
  match s.waiting id with
  | .error notice => { session := s, answer := false, notices := [notice] }
  | .ok e =>
    let rejected := asRejected e
    { session := { s with pending := change id (fun _ => rejected) s.pending }
      answer := true
      events := s.report (.ofReject rejected) }

/-- **Forgetting all edits.** -/
def clear (s : Session) : Effect Unit :=
  { session := { s with pending := [], archive := [] }
    answer := ()
    events := s.report (.ofClear (s.pending.length + s.archive.length)) }

/-! ## Operations on many edits -/

/-- How many edits were applied and how many were not. -/
structure Tally where
  /-- The edits that were applied. -/
  succeeded : Nat := 0
  /-- The edits that were not. -/
  failed : Nat := 0
  deriving DecidableEq, Repr

/-- The count with one more edit in it. -/
def Tally.counting (t : Tally) (applied : Bool) : Tally :=
  if applied then { t with succeeded := t.succeeded + 1 } else { t with failed := t.failed + 1 }

/-- **The texts of files in a batch.** A batch goes on from the texts that it
has made, and writes them into a copy of what the caller gave it. -/
structure Texts where
  /-- The texts of the caller. -/
  given : Option (Table Text Text)
  /-- The copy that the batch works on. -/
  working : Option (Table Text Text)

namespace Texts

/-- The texts of a caller, and a copy of them. -/
def copied (contents : Option (Table Text Text)) : Texts :=
  { given := contents, working := contents }

/-- The text that a batch goes on from in a file, if one was given for it. -/
def text? (texts : Texts) (path : Text) : Option Text :=
  texts.working.bind (·.get? path)

/-- The texts with another one in a file, if one was given for it. -/
def replace (texts : Texts) (path text : Text) : Texts :=
  { texts with
    working := texts.working.map fun t => if t.holds path then t.put path text else t }

end Texts

/-- What comes of a batch: its count, and the texts of files. -/
structure Batch where
  /-- How many edits were applied and how many were not. -/
  tally : Tally := {}
  /-- The texts of files afterwards. -/
  texts : Texts

/-- The texts of files once an edit was applied: the one of its file is
replaced by the one it made. -/
def carryOver (s : Session) (e : Edit) (texts : Texts) : Texts :=
  match (s.get? e.id).bind (·.result) with
  | some result => texts.replace e.filePath result
  | none => texts

/-- Applying some edits in order, with the texts of files to apply them
to. Each edit to a file goes on from the text that the one before it
made. -/
def applyEach : List Edit → Texts → Session → Effect Batch
  | [], texts, s => { session := s, answer := { texts } }
  | e :: rest, texts, s =>
    let first := s.apply e.id (texts.text? e.filePath)
    let texts := if first.answer then first.session.carryOver e texts else texts
    first.andThen fun s =>
      (applyEach rest texts s).map fun batch =>
        { batch with tally := batch.tally.counting first.answer }

/-- **Applying every edit that waits**, in order of submission, each one
on its own account. -/
def applyAll (s : Session) (contents : Option (Table Text Text)) : Effect Batch :=
  applyEach (s.pending.filter (·.status == .pending)) (.copied contents) s

/-- Turning down some edits in order. -/
def rejectEach : List EditId → Session → Effect Nat
  | [], s => { session := s, answer := 0 }
  | id :: rest, s =>
    let first := s.reject id
    first.andThen fun s =>
      (rejectEach rest s).map fun count => if first.answer then count + 1 else count

/-- **Turning down every edit that waits.** The answer is their number. -/
def rejectAll (s : Session) : Effect Nat :=
  rejectEach (s.pending.map (·.id)) s

/-! ## Interference from outside -/

/-- The session with other settings. -/
def configure (s : Session) (settings : Settings) : Session :=
  { s with settings }

/-- The session with another level of the journal. -/
def setJournalLevel (s : Session) (level : Level) : Session :=
  { s with journalLevel := level }

/-- The session in which an edit is given another status, wherever it
is. -/
def setStatus (s : Session) (id : EditId) (status : Status) : Session :=
  let set := change id fun e => { e with status }
  if (findIn id s.pending).isSome then { s with pending := set s.pending }
  else { s with archive := set s.archive }

end Session

end DriftPatch
