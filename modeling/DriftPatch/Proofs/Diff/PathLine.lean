import DriftPatch.Diff.Path
import DriftPatch.Proofs.Text.Lines

/-!
# The line that the path comes from

A line names a file on its own if blanks and some more follow its marks. The path of
a text should be the first one named so, line by line. It is, as long as no marks
stand alone: the blanks behind them may run on over line ends, and then the first
line below that is not blank is the path, whatever it is.

So two things can offer a path, a line on its own and a line that blanks run on to.
The first path offered is the one that is found, and the two readings part exactly
where it is offered in the second way (`Diff.extractPath_eq_linePath_iff`).
-/

namespace DriftPatch

namespace Text

/-- The first character stays if it is not blank. -/
theorem strip_cons_of_not_isBlank {c : Char} (hc : isBlank c = false) (t : Text) :
    strip (c :: t) = c :: stripRight t := by
  have hnot : ¬isBlank c = true := by
    rw [hc]
    exact Bool.false_ne_true
  unfold strip stripLeft stripRight
  rw [List.dropWhile_cons_of_neg hnot, List.reverse_cons, List.dropWhile_append]
  split
  · next hnil => rw [List.isEmpty_iff.1 hnil, List.dropWhile_cons_of_neg hnot]; rfl
  · rw [List.reverse_concat]

end Text

namespace Diff

/-- Whether a path is one of a file. -/
def isFile (path : Text) : Bool :=
  path != [] && path != nullDevice

/-- **The path that a line names on its own**: its marks are followed by a blank and
at least one more character. -/
def ownPath? (line : Line) : Option Text := do
  let tail ← afterMarks? line
  if tail.head?.any Text.isBlank && 1 < tail.length then
    some (Text.strip (unprefixed tail.stripLeft))
  else none

/-- **The path of a text, line by line**: the first one of a file that a line names
on its own. -/
def linePath (text : Text) : Text :=
  ((text.lines.filterMap ownPath?).find? isFile).getD unknownPath

/-- Whether a line has marks of a file and nothing but blanks behind them. -/
def isBare (line : Line) : Bool :=
  (afterMarks? line).any (·.all Text.isBlank)

/-- Whether blanks behind marks run on to the line below: the last line that is not
blank has nothing else behind its marks. -/
def runsOn (above : List Line) : Bool :=
  (above.reverse.find? fun line => !line.all Text.isBlank).any isBare

/-- **A path is taken from a line that blanks run on to.** -/
structure RunsOnTo (above : List Line) (line : Line) (path : Text) : Prop where
  /-- They run on over the lines above. -/
  runsOn : runsOn above = true
  /-- They end in this line. -/
  filled : line.all Text.isBlank = false
  /-- The path is all of the line. -/
  path_eq : path = Text.strip (unprefixed line.stripLeft)

/-- **A line offers a path** of a file, below others. -/
structure Offers (above : List Line) (line : Line) (path : Text) : Prop where
  /-- It is a path of a file. -/
  isFile : isFile path = true
  /-- The line names it, or blanks run on to the line. -/
  offered : ownPath? line = some path ∨ RunsOnTo above line path

/-- **Lines that offer no path.** -/
def Quiet (ls : List Line) : Prop :=
  ∀ above line, above ++ [line] <+: ls → ∀ path, ¬Offers above line path

/-- **The first path that lines offer is one of a line that blanks run on to.** -/
def RunsOnFirst (ls : List Line) (path : Text) : Prop :=
  ∃ above line, above ++ [line] <+: ls ∧ Quiet above ∧ isFile path = true
    ∧ RunsOnTo above line path

variable {above ls rest : List Line} {line : Line} {path tail : Text}

/-! ## What is above a line -/

theorem runsOn_concat (above : List Line) (line : Line) :
    runsOn (above ++ [line]) = if line.all Text.isBlank then runsOn above else isBare line := by
  unfold runsOn
  rw [List.reverse_concat, List.find?_cons]
  cases line.all Text.isBlank <;> rfl

theorem quiet_nil : Quiet [] :=
  fun _ _ hstart => absurd (List.prefix_nil.1 hstart) (List.concat_ne_nil _ _)

theorem quiet_concat_iff :
    Quiet (above ++ [line]) ↔ Quiet above ∧ ∀ path, ¬Offers above line path := by
  constructor
  · intro h
    exact ⟨fun above' line' hstart => h above' line' (hstart.trans (List.prefix_append _ _)),
      h above line List.prefix_rfl⟩
  · rintro ⟨habove, hline⟩ above' line' hstart
    rcases List.prefix_concat_iff.1 hstart with heq | hstart
    · obtain ⟨rfl, hline'⟩ := List.append_inj' heq rfl
      rwa [List.singleton_inj.1 hline']
    · exact habove above' line' hstart

/-! ## Lines with marks -/

theorem exists_of_afterMarks? (h : afterMarks? line = some tail) :
    ∃ c rest, line = c :: rest ∧ Text.isBlank c = false ∧ c ≠ 'a' ∧ c ≠ 'b' ∧ c ≠ '/' := by
  rcases Option.or_eq_some_iff.1 h with h | ⟨-, h⟩
  · exact ⟨'-', _, Text.after?_eq_some_iff.1 h, by decide⟩
  · exact ⟨'+', _, Text.after?_eq_some_iff.1 h, by decide⟩

/-- A line with marks is not blank. -/
theorem afterMarks?_eq_none_of_blank (hblank : line.all Text.isBlank = true) :
    afterMarks? line = none := by
  rw [Option.eq_none_iff_forall_ne_some]
  intro tail h
  obtain ⟨c, rest, rfl, hc, -⟩ := exists_of_afterMarks? h
  rw [List.all_cons, hc] at hblank
  exact Bool.false_ne_true hblank

/-- All of a line with marks would be a path of a file. -/
theorem isFile_of_afterMarks? (h : afterMarks? line = some tail) :
    isFile (Text.strip (unprefixed line.stripLeft)) = true := by
  obtain ⟨c, rest, rfl, hc, ha, hb, hslash⟩ := exists_of_afterMarks? h
  have hleft : Text.stripLeft (c :: rest) = c :: rest := by
    rw [Text.stripLeft, List.dropWhile_cons_of_neg (by rw [hc]; exact Bool.false_ne_true)]
  have hstart : unprefixed (c :: rest) = c :: rest := by
    unfold unprefixed
    split
    · next heq => exact absurd (List.cons.inj heq).1 ha
    · next heq => exact absurd (List.cons.inj heq).1 hb
    · rfl
  rw [hleft, hstart, Text.strip_cons_of_not_isBlank hc, isFile, Bool.and_eq_true, bne_iff_ne,
    bne_iff_ne]
  exact ⟨List.cons_ne_nil _ _, fun heq => hslash (List.cons.inj heq).1⟩

/-- Blanks and something that is not blank are at least two characters. -/
theorem one_lt_length_of_blank (hfilled : tail.all Text.isBlank = false)
    (hblank : tail.head?.any Text.isBlank = true) : 1 < tail.length := by
  match tail with
  | [] => cases hblank
  | [c] =>
    rw [List.head?_cons, Option.any_some] at hblank
    rw [List.all_cons, hblank] at hfilled
    cases hfilled
  | c :: d :: rest => exact Nat.succ_lt_succ (Nat.succ_pos _)

/-- If only blanks follow its marks, a line names no file on its own. -/
theorem isBare_eq_false_of_ownPath? (h : ownPath? line = some path) (hfile : isFile path = true) :
    isBare line = false := by
  obtain ⟨tail, htail, h⟩ := Option.bind_eq_some_iff.1 h
  obtain ⟨-, hpath⟩ := Option.ite_none_right_eq_some.1 h
  obtain rfl := Option.some.inj hpath
  rw [isBare, htail, Option.any_some, Bool.eq_false_iff]
  intro hall
  have hnil : Text.stripLeft tail = [] := List.dropWhile_eq_nil_iff.2 (List.all_eq_true.1 hall)
  rw [hnil] at hfile
  cases hfile

/-! ## The scan line by line -/

/-- Blank lines change nothing. -/
theorem namedPaths_of_blank (hblank : line.all Text.isBlank = true) (running : Bool)
    (rest : List Line) : namedPaths running (line :: rest) = namedPaths running rest := by
  cases running with
  | true => rw [namedPaths, if_pos hblank]
  | false => rw [namedPaths, afterMarks?_eq_none_of_blank hblank]

/-- Where blanks run on, a line that is not blank is a path. -/
theorem namedPaths_true_of_filled (hfilled : line.all Text.isBlank = false) (rest : List Line) :
    namedPaths true (line :: rest)
      = Text.strip (unprefixed line.stripLeft) :: namedPaths false rest := by
  rw [namedPaths, hfilled, if_neg Bool.false_ne_true]

/-- Elsewhere blanks run on behind marks that stand alone, and any other line names
what it does on its own. -/
theorem namedPaths_false_cons (line : Line) (rest : List Line) :
    namedPaths false (line :: rest)
      = if isBare line then namedPaths true rest
        else (ownPath? line).toList ++ namedPaths false rest := by
  rw [namedPaths, isBare, ownPath?]
  cases afterMarks? line with
  | none => rfl
  | some tail =>
    rw [Option.any_some]
    dsimp only
    cases hall : tail.all Text.isBlank with
    | true => rw [if_pos rfl, if_pos rfl]
    | false =>
      rw [if_neg Bool.false_ne_true, if_neg Bool.false_ne_true]
      split
      · next hblank => simp [hblank, one_lt_length_of_blank hall hblank]
      · next hblank => simp [hblank]

/-- **A line that offers no path is passed over**, and whether blanks run on is seen
from the lines passed. -/
theorem find?_namedPaths_cons (hquiet : ∀ path, ¬Offers above line path) (rest : List Line) :
    (namedPaths (runsOn above) (line :: rest)).find? isFile
      = (namedPaths (runsOn (above ++ [line])) rest).find? isFile := by
  rw [runsOn_concat]
  cases hblank : line.all Text.isBlank with
  | true => rw [namedPaths_of_blank hblank, if_pos rfl]
  | false =>
    rw [if_neg Bool.false_ne_true]
    cases hruns : runsOn above with
    | true =>
      -- the line is taken for a path, so it has no marks, or it would be one
      have hnot : ¬isFile (Text.strip (unprefixed line.stripLeft)) = true :=
        fun hfile => hquiet _ ⟨hfile, .inr ⟨hruns, hblank, rfl⟩⟩
      have hmarks : afterMarks? line = none :=
        Option.eq_none_iff_forall_ne_some.2 fun _ h => hnot (isFile_of_afterMarks? h)
      rw [namedPaths_true_of_filled hblank, List.find?_cons_of_neg hnot, isBare, hmarks,
        Option.any_none]
    | false =>
      rw [namedPaths_false_cons]
      cases isBare line with
      | true => rw [if_pos rfl]
      | false =>
        rw [if_neg Bool.false_ne_true]
        cases hown : ownPath? line with
        | none => rw [Option.toList_none, List.nil_append]
        | some path =>
          rw [Option.toList_some, List.singleton_append,
            List.find?_cons_of_neg fun hfile => hquiet path ⟨hfile, .inl hown⟩]

/-- **Lines that offer no path are passed over.** -/
theorem find?_namedPaths_append {passed : List Line} (hquiet : Quiet (above ++ passed))
    (rest : List Line) :
    (namedPaths (runsOn above) (passed ++ rest)).find? isFile
      = (namedPaths (runsOn (above ++ passed)) rest).find? isFile := by
  induction passed generalizing above with
  | nil => rw [List.append_nil, List.nil_append]
  | cons line passed ih =>
    rw [List.append_cons] at hquiet ⊢
    have hline := (quiet_concat_iff.1 fun above' line' hstart =>
      hquiet above' line' (hstart.trans (List.prefix_append _ _))).2
    rw [List.cons_append, find?_namedPaths_cons hline, ih hquiet]

/-- **The path of a line that blanks run on to is found**, if no line above offers
one. -/
theorem find?_namedPaths_of_runsOnFirst (h : RunsOnFirst ls path) :
    (namedPaths false ls).find? isFile = some path := by
  obtain ⟨above, line, ⟨rest, rfl⟩, hquiet, hfile, hruns⟩ := h
  have hskip : (namedPaths (runsOn []) (above ++ line :: rest)).find? isFile
      = (namedPaths (runsOn above) (line :: rest)).find? isFile :=
    find?_namedPaths_append (show Quiet ([] ++ above) from hquiet) (line :: rest)
  obtain ⟨habove, hfilled, rfl⟩ := hruns
  rw [← List.append_cons]
  refine hskip.trans ?_
  rw [habove, namedPaths_true_of_filled hfilled, List.find?_cons_of_pos hfile]

/-- **If there is no such line, the lines are read one by one.** -/
theorem find?_namedPaths_of_not_runsOnFirst (hquiet : Quiet above)
    (hnone : ∀ path, ¬RunsOnFirst (above ++ ls) path) :
    (namedPaths (runsOn above) ls).find? isFile = (ls.filterMap ownPath?).find? isFile := by
  induction ls generalizing above with
  | nil => cases runsOn above <;> rfl
  | cons line ls ih =>
    have hfirst {path : Text} (hfile : isFile path = true) (hruns : RunsOnTo above line path) :
        False :=
      hnone path ⟨above, line, ⟨ls, (List.append_cons above line ls).symm⟩, hquiet, hfile, hruns⟩
    by_cases hline : ∀ path, ¬Offers above line path
    · have hrest := ih (quiet_concat_iff.2 ⟨hquiet, hline⟩) (by rwa [← List.append_cons])
      rw [find?_namedPaths_cons hline, hrest]
      cases hown : ownPath? line with
      | none => rw [List.filterMap_cons_none hown]
      | some path =>
        rw [List.filterMap_cons_some hown,
          List.find?_cons_of_neg fun hfile => hline path ⟨hfile, .inl hown⟩]
    · obtain ⟨path, hoffers⟩ := not_forall_not.1 hline
      obtain ⟨hfile, hown | hruns⟩ := hoffers
      · obtain ⟨tail, hmarks, -⟩ := Option.bind_eq_some_iff.1 hown
        have hfilled : line.all Text.isBlank = false := by
          rw [Bool.eq_false_iff]
          intro hblank
          rw [afterMarks?_eq_none_of_blank hblank] at hmarks
          cases hmarks
        have hstop : runsOn above = false := by
          rw [Bool.eq_false_iff]
          exact fun habove => hfirst (isFile_of_afterMarks? hmarks) ⟨habove, hfilled, rfl⟩
        rw [hstop, namedPaths_false_cons, isBare_eq_false_of_ownPath? hown hfile,
          if_neg Bool.false_ne_true, List.filterMap_cons_some hown, hown, Option.toList_some,
          List.singleton_append, List.find?_cons_of_pos hfile, List.find?_cons_of_pos hfile]
      · exact (hfirst hfile hruns).elim

/-- **The path of a text is the one that its lines name**, each on its own, unless
blanks run on to a line before that: then the path is that line. -/
theorem extractPath_eq_linePath_iff (text : Text) :
    (∀ path, RunsOnFirst text.lines path → extractPath text = path)
      ∧ ((∀ path, ¬RunsOnFirst text.lines path) → extractPath text = linePath text)
      ∧ (extractPath text = linePath text
        ↔ ∀ path, RunsOnFirst text.lines path → path = linePath text) := by
  have hfirst : ∀ path, RunsOnFirst text.lines path → extractPath text = path := by
    intro path hpath
    show ((namedPaths false text.lines).find? isFile).getD unknownPath = path
    rw [find?_namedPaths_of_runsOnFirst hpath, Option.getD_some]
  have hlines : (∀ path, ¬RunsOnFirst text.lines path) → extractPath text = linePath text := by
    intro hnone
    have hread : (namedPaths (runsOn []) text.lines).find? isFile
        = (text.lines.filterMap ownPath?).find? isFile :=
      find?_namedPaths_of_not_runsOnFirst quiet_nil hnone
    exact congrArg (Option.getD · unknownPath) hread
  refine ⟨hfirst, hlines, fun heq path hpath => (hfirst path hpath).symm.trans heq, fun hsame => ?_⟩
  by_cases hnone : ∀ path, ¬RunsOnFirst text.lines path
  · exact hlines hnone
  · obtain ⟨path, hpath⟩ := not_forall_not.1 hnone
    exact (hfirst path hpath).trans (hsame path hpath)

/-- **A rule is taken for the marks of a file**: the line below it is the path, though
the line after that names one. -/
theorem extractPath_ne_linePath_rule :
    extractPath "---\nnotes\n--- a/f".toList = "notes".toList
      ∧ linePath "---\nnotes\n--- a/f".toList = "f".toList
      ∧ extractPath "---\nnotes\n--- a/f".toList ≠ linePath "---\nnotes\n--- a/f".toList := by
  decide +kernel

end Diff

end DriftPatch
