import DriftPatch.Placement

/-!
# Applying a list of hunks

Hunks are applied one after another, each to the text that the ones
before it have made. Each hunk placed shifts what follows it, so the line
numbers of the later hunks are corrected by the lines added and removed
so far.

Hunks are applied all or none: where one cannot be placed the text is the
one from the start. The strategies of the hunks placed before it are
still reported.
-/

namespace DriftPatch

/-- The run of a list of hunks that starts with number `index`: up to and
including the first hunk that cannot be placed. The content is the text
that the hunks placed so far have made. -/
def runHunks (excerpt : Excerpt) (index : Nat) (offset : Int) (content : Text) :
    List Hunk → Outcome
  | [] => { content }
  | h :: rest =>
    let first := h.applyTo excerpt offset content
    match first.failure with
    | some failure => { first with failure := some { failure with hunkIndex := index } }
    | none =>
      let later := runHunks excerpt (index + 1) (offset + h.lineDelta) first.content rest
      { later with strategies := first.strategies ++ later.strategies }

/-- **Applying hunks**, all or none. -/
def applyHunks (excerpt : Excerpt) (content : Text) (hunks : List Hunk) : Outcome :=
  let run := runHunks excerpt 0 0 content hunks
  if run.ok then run else { run with content }

/-- The hunks that a run gets to, each with what came of it. -/
def traceHunks (excerpt : Excerpt) (offset : Int) (content : Text) :
    List Hunk → List (Hunk × Outcome)
  | [] => []
  | h :: rest =>
    let first := h.applyTo excerpt offset content
    (h, first) ::
      if first.ok then traceHunks excerpt (offset + h.lineDelta) first.content rest else []

end DriftPatch
