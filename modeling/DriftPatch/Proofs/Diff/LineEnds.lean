import DriftPatch.Diff.Parse
import DriftPatch.Proofs.Text.Lines

/-!
# Line ends in diff text

A diff text may come with line feeds alone, with a carriage return before each of
them, or with both by turns, as mails and checkouts leave them. It has the same
hunks in every style (`Diff.parseHunks_eq_of_restyled`): reading folds the line ends
before it looks at a line, and in a text without returns of its own it takes out
just those that the style has put in. A header that cannot be read stays one, too.

Only the hunks are the same. The path of a diff is looked for before line ends are
folded.
-/

namespace DriftPatch

namespace Text

/-- **A text in other line ends**: a carriage return stands before any of its line
feeds, be it all, none or some of them. -/
inductive Restyled : Text → Text → Prop where
  /-- Nothing has no line ends. -/
  | nil : Restyled [] []
  /-- Any character stays as it is, and a line feed may. -/
  | cons (c : Char) {t u : Text} : Restyled t u → Restyled (c :: t) (c :: u)
  /-- A line feed may get a return before it. -/
  | feed {t u : Text} : Restyled t u → Restyled ('\n' :: t) ('\r' :: '\n' :: u)

/-- **Folding undoes a change of line ends.** -/
theorem foldLineEnds_of_restyled {t u : Text} (h : Restyled t u) (hreturn : '\r' ∉ t) :
    foldLineEnds u = t := by
  induction h with
  | nil => rfl
  | cons c _ ih =>
    -- a return that is folded would be one of the text itself
    have hc : c ≠ '\r' := fun e => hreturn (e ▸ List.mem_cons_self ..)
    rw [foldLineEnds, ih (List.not_mem_of_not_mem_cons hreturn)]
    rintro rest e
    exact absurd e hc
  | feed _ ih => rw [foldLineEnds, ih (List.not_mem_of_not_mem_cons hreturn)]

end Text

namespace Diff

variable {t u : Text}

/-- In other line ends a text has the lines that it has. -/
theorem textLines_of_restyled (h : t.Restyled u) (hreturn : '\r' ∉ t) :
    textLines u = textLines t := by
  have hfold : Text.foldLineEnds u = Text.foldLineEnds t := by
    rw [Text.foldLineEnds_of_restyled h hreturn, Text.foldLineEnds_of_return_notMem hreturn]
  unfold textLines
  rw [hfold]

/-- **The hunks of a diff text do not depend on its line ends**, and neither does
whether it can be read. -/
theorem parseHunks_eq_of_restyled (hreturn : '\r' ∉ t) (h : t.Restyled u) :
    parseHunks u = parseHunks t := by
  unfold parseHunks
  rw [textLines_of_restyled h hreturn]

/-- A diff text with a header, an empty line of context and a line feed at its end. -/
def feedsOnly : Text :=
  ['@', '@', ' ', '-', '1', ' ', '+', '1', ' ', '@', '@', '\n', '\n', '-', 'a', '\n',
    '+', 'b', '\n']

/-- The same text with returns at the empty line and at the end. -/
def mixedEnds : Text :=
  ['@', '@', ' ', '-', '1', ' ', '+', '1', ' ', '@', '@', '\n', '\r', '\n', '-', 'a', '\n',
    '+', 'b', '\r', '\n']

/-- The empty line is context still, the line added has no return at its end, and
there is no line behind it. -/
theorem parseHunks_eq_of_restyled_mixed :
    '\r' ∉ feedsOnly ∧ feedsOnly.Restyled mixedEnds
      ∧ parseHunks mixedEnds = parseHunks feedsOnly
      ∧ parseHunks feedsOnly
        = .ok [{ oldCount := 1, newCount := 1, oldLines := [['a']], newLines := [['b']],
                 contextBefore := [[]] }] := by
  have hreturn : '\r' ∉ feedsOnly := by decide
  have hrestyled : feedsOnly.Restyled mixedEnds := by
    unfold feedsOnly mixedEnds
    repeat constructor
  exact ⟨hreturn, hrestyled, parseHunks_eq_of_restyled hreturn hrestyled, by decide⟩

end Diff

end DriftPatch
