import DriftPatch.Diff.Format
import DriftPatch.Diff.Path
import DriftPatch.Proofs.Text.Lines

/-!
# The path of a diff is found in its first line

A diff that is written names its file in its first two lines. The first of
them already gives the path, provided it is one that a line can name: it
is not empty, does not begin or end with blanks, does not run over its
line, and is not the null device.

The path that is found in a text is always of this kind, be the text a diff
or not.
-/

namespace DriftPatch.Diff

/-- **A path that a diff can name.** -/
structure IsNameable (path : Text) : Prop where
  /-- It is not empty. -/
  ne_nil : path ≠ []
  /-- It neither begins nor ends with blanks. -/
  stripped : path.strip = path
  /-- It stays on its line. -/
  feedless : '\n' ∉ path
  /-- It is not the path of no file. -/
  ne_nullDevice : path ≠ nullDevice

instance (path : Text) : Decidable (IsNameable path) :=
  decidable_of_iff (path ≠ [] ∧ path.strip = path ∧ '\n' ∉ path ∧ path ≠ nullDevice)
    ⟨fun h => ⟨h.1, h.2.1, h.2.2.1, h.2.2.2⟩, fun h => ⟨h.1, h.2, h.3, h.4⟩⟩

variable {path : Text}

theorem feed_notMem_of_mem_fileLines (h : '\n' ∉ path) :
    ∀ l ∈ fileLines path, '\n' ∉ l := by
  unfold fileLines
  rw [List.forall_mem_cons, List.forall_mem_singleton]
  exact ⟨by simpa using h, by simpa using h⟩

theorem fileLines_append_ne_nil (path : Text) (rest : List Line) :
    fileLines path ++ rest ≠ [] :=
  List.cons_ne_nil _ _

/-- What the first line of a diff names. -/
theorem namedPaths_fileLines (hpath : IsNameable path) (rest : List Line) :
    namedPaths false (fileLines path ++ rest)
      = path :: namedPaths false ((['+', '+', '+', ' ', 'b', '/'] ++ path) :: rest) := by
  obtain ⟨c, cs, hcs⟩ := List.exists_cons_of_ne_nil hpath.ne_nil
  have hmarks : afterMarks? (['-', '-', '-', ' ', 'a', '/'] ++ path)
      = some (' ' :: 'a' :: '/' :: path) := rfl
  have hnamed : Text.strip (unprefixed (Text.stripLeft (' ' :: 'a' :: '/' :: path)))
      = path := by
    show Text.strip (unprefixed ('a' :: '/' :: path)) = path
    rw [hcs]
    show Text.strip (c :: cs) = c :: cs
    rw [← hcs, hpath.stripped]
  rw [fileLines, List.cons_append, namedPaths, hmarks]
  show Text.strip (unprefixed (Text.stripLeft (' ' :: 'a' :: '/' :: path))) :: _ = _
  rw [hnamed]
  rfl

/-- **The path of a diff that is written is the one it names.** -/
theorem extractPath_ofLines (hpath : IsNameable path) {rest : List Line}
    (hrest : ∀ l ∈ rest, '\n' ∉ l) :
    extractPath (Text.ofLines (fileLines path ++ rest)) = path := by
  have hfeed : ∀ l ∈ fileLines path ++ rest, '\n' ∉ l := by
    intro l hl
    rcases List.mem_append.1 hl with hl | hl
    · exact feed_notMem_of_mem_fileLines hpath.feedless l hl
    · exact hrest l hl
  have hgood : (path != [] && path != nullDevice) = true := by
    simp [hpath.ne_nil, hpath.ne_nullDevice]
  rw [extractPath, Text.lines_ofLines (fileLines_append_ne_nil path rest) hfeed,
    namedPaths_fileLines hpath, List.find?_cons_of_pos]
  · rfl
  · exact hgood

/-! ## What is found in any text -/

theorem unprefixed_suffix (path : Text) : unprefixed path <:+ path := by
  unfold unprefixed
  split
  · exact ⟨['a', '/'], rfl⟩
  · exact ⟨['b', '/'], rfl⟩
  · exact List.suffix_rfl

theorem suffix_of_afterMarks? {line tail : Text} (h : afterMarks? line = some tail) :
    tail <:+ line := by
  rcases Option.or_eq_some_iff.1 h with h | ⟨-, h⟩
  · exact ⟨_, (Text.after?_eq_some_iff.1 h).symm⟩
  · exact ⟨_, (Text.after?_eq_some_iff.1 h).symm⟩

/-- The path that is found in what follows the marks. -/
theorem isInfix_strip_unprefixed (t : Text) :
    Text.strip (unprefixed t.stripLeft) <:+: t :=
  (Text.isInfix_strip _).trans
    ((unprefixed_suffix _).isInfix.trans (List.dropWhile_suffix Text.isBlank).isInfix)

/-- **A path that is named is a piece of one line, without blanks at its
ends.** -/
theorem infix_of_mem_namedPaths {running : Bool} {ls : List Line}
    (h : path ∈ namedPaths running ls) :
    path.strip = path ∧ ∃ l ∈ ls, path <:+: l := by
  induction ls generalizing running with
  | nil => cases running <;> cases h
  | cons l ls ih =>
    have hrest {running : Bool} (h : path ∈ namedPaths running ls) :
        path.strip = path ∧ ∃ m ∈ l :: ls, path <:+: m := by
      obtain ⟨hstrip, m, hm, hpiece⟩ := ih h
      exact ⟨hstrip, m, List.mem_cons_of_mem l hm, hpiece⟩
    have hhere {t : Text} (ht : t <:+ l)
        (h : path ∈ Text.strip (unprefixed t.stripLeft) :: namedPaths false ls) :
        path.strip = path ∧ ∃ m ∈ l :: ls, path <:+: m := by
      rcases List.mem_cons.1 h with rfl | h
      · exact ⟨Text.strip_strip _, l, List.mem_cons_self ..,
          (isInfix_strip_unprefixed t).trans ht.isInfix⟩
      · exact hrest h
    cases running with
    | true =>
      rw [namedPaths] at h
      split at h
      · exact hrest h
      · exact hhere List.suffix_rfl h
    | false =>
      rw [namedPaths] at h
      split at h
      · exact hrest h
      · next hmarks =>
        split at h
        · exact hrest h
        · split at h
          · exact hhere (suffix_of_afterMarks? hmarks) h
          · exact hrest h

/-- **The path that is found in a text can be named**, whatever the text. -/
theorem isNameable_extractPath (text : Text) : IsNameable (extractPath text) := by
  unfold extractPath
  cases hfound : (namedPaths false text.lines).find? fun path =>
      path != [] && path != nullDevice with
  | none => exact (by decide : IsNameable unknownPath)
  | some path =>
    have hgood := List.find?_some hfound
    rw [Bool.and_eq_true, bne_iff_ne, bne_iff_ne] at hgood
    obtain ⟨hstrip, l, hl, hpiece⟩ :=
      infix_of_mem_namedPaths (List.mem_of_find?_eq_some hfound)
    have hfeed : '\n' ∉ path := fun h => Text.feed_notMem_of_mem_lines hl (hpiece.subset h)
    exact ⟨hgood.1, hstrip, hfeed, hgood.2⟩

end DriftPatch.Diff
