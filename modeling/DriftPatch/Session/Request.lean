import DriftPatch.Record.Schema
import DriftPatch.Session.Basic

/-!
# Requests to a session

Everything that can be asked of a session, as data, so that whole runs
can be spoken of. `Session.perform` answers one request, and
`Session.run` a list of them.
-/

namespace DriftPatch

/-- **A request to a session.** -/
inductive Request where
  /-- Submit a diff to a file. The path is checked, and the diff is absent
  if it could not be read. -/
  | submit (filePath : Value) (diff : Option Diff)
  /-- Apply an edit to a text. -/
  | apply (id : EditId) (content : Option Text)
  /-- Try an edit out on a text. -/
  | preview (id : EditId) (content : Option Text)
  /-- Apply every edit that waits to the texts of files. -/
  | applyAll (contents : Option (Table Text Text))
  /-- Turn an edit down. -/
  | reject (id : EditId)
  /-- Turn every edit down that waits. -/
  | rejectAll
  /-- Forget all edits. -/
  | clear
  /-- Look at an edit. -/
  | get (id : EditId)
  /-- Use other settings. -/
  | configure (settings : Settings)
  /-- Give an edit another status. -/
  | setStatus (id : EditId) (status : Status)
  /-- Give the journal another level. -/
  | setJournalLevel (level : Level)

/-- **The answer to a request.** -/
inductive Answer where
  /-- The name of the edit submitted. -/
  | issued (id : EditId)
  /-- The problems of what was submitted. -/
  | refused (problems : List Problem)
  /-- Whether it was done. -/
  | done (b : Bool)
  /-- What applying would come to, for an edit that waits. -/
  | outcome (o : Option Outcome)
  /-- How many edits were applied, and the texts of files that the caller
  gave, as they are afterwards. -/
  | tally (t : Session.Tally) (contents : Option (Table Text Text))
  /-- How many edits were turned down. -/
  | count (n : Nat)
  /-- The edit looked for. -/
  | found (e : Option Edit)
  /-- The settings now in use. -/
  | settings (s : Settings)
  /-- There is nothing to say. -/
  | silent

namespace Session

/-- **Answering a request.** -/
def perform (s : Session) : Request → Effect Answer
  | .submit filePath diff =>
    match Edit.draft filePath diff with
    | .valid (filePath, diff) => (s.submit filePath diff).map .issued
    | .invalid problems => { session := s, answer := .refused problems }
  | .apply id content => (s.apply id content).map .done
  | .preview id content => (s.preview id content).map .outcome
  | .applyAll contents =>
    (s.applyAll contents).map fun batch => .tally batch.tally batch.texts.given
  | .reject id => (s.reject id).map .done
  | .rejectAll => s.rejectAll.map .count
  | .clear => s.clear.map fun _ => .silent
  | .get id => { session := s, answer := .found (s.get? id) }
  | .configure settings => { session := s.configure settings, answer := .settings settings }
  | .setStatus id status => { session := s.setStatus id status, answer := .silent }
  | .setJournalLevel level => { session := s.setJournalLevel level, answer := .silent }

/-- **Answering requests in order.** -/
def run (s : Session) : List Request → Effect (List Answer)
  | [] => { session := s, answer := [] }
  | request :: rest =>
    let first := s.perform request
    first.andThen fun s => (s.run rest).map (first.answer :: ·)

end Session

end DriftPatch
