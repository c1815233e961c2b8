/-!
# Text and its lines

A **text** is a list of code points. Lengths, cuts and truncation count
code points, and everything said about texts is said by recursion on the
list.

A text falls into **lines** at its line feeds and at nothing else: a text
with `n` line feeds has `n + 1` lines, the empty text one empty line. A
line keeps its carriage returns. `Text.lines` and `Text.ofLines` are
inverse to one another wherever they can be: joining the lines of a text
gives the text, and splitting a joined non-empty list of lines gives the
list, provided no line holds a line feed.
-/

namespace DriftPatch

/-- **A text**: its code points in order. -/
abbrev Text := List Char

/-- A text without a line feed, as a rule: what `Text.lines` gives. -/
abbrev Line := Text

namespace Text

/-- The lines of a text. -/
def lines (t : Text) : List Line :=
  t.splitOn '\n'

/-- The text whose lines are given, joined by line feeds. -/
def ofLines (ls : List Line) : Text :=
  ['\n'].intercalate ls

/-- Every carriage return before a line feed is dropped. Two texts that
differ in the style of their line endings only have the same image. -/
def foldLineEnds : Text → Text
  | '\r' :: '\n' :: rest => '\n' :: foldLineEnds rest
  | c :: rest => c :: foldLineEnds rest
  | [] => []

/-- What follows the last occurrence of a character, and the whole text
where it does not occur. -/
def afterLast (c : Char) (t : Text) : Text :=
  (t.reverse.takeWhile (· != c)).reverse

/-- What is left of `t` after `lead`, if `t` begins with it. -/
def after? : (lead t : Text) → Option Text
  | [], t => some t
  | _ :: _, [] => none
  | a :: lead, c :: t => if a = c then after? lead t else none

/-- What stands before and after the first place where `needle` occurs
in a text. -/
def cut? (needle : Text) : Text → Option (Text × Text)
  | [] => (after? needle []).map ([], ·)
  | c :: t =>
    match after? needle (c :: t) with
    | some rest => some ([], rest)
    | none => (cut? needle t).map fun (head, rest) => (c :: head, rest)

/-! ## What the operations say about the whole text -/

theorem after?_eq_some_iff {lead t rest : Text} :
    after? lead t = some rest ↔ t = lead ++ rest := by
  induction lead generalizing t with
  | nil => simp [after?, eq_comm]
  | cons a lead ih =>
    cases t with
    | nil => simp [after?]
    | cons c t =>
      by_cases h : a = c
      · simp [after?, h, ih]
      · simp [after?, h, Ne.symm h]

theorem eq_append_of_cut? {needle t head rest : Text}
    (h : cut? needle t = some (head, rest)) : t = head ++ needle ++ rest := by
  induction t generalizing head with
  | nil =>
    obtain ⟨r, hr, hp⟩ := Option.map_eq_some_iff.1 h
    simp only [Prod.mk.injEq] at hp
    obtain ⟨rfl, rfl⟩ := hp
    simpa using after?_eq_some_iff.1 hr
  | cons c t ih =>
    rw [cut?] at h
    split at h
    · next r hr =>
      simp only [Option.some.injEq, Prod.mk.injEq] at h
      obtain ⟨rfl, rfl⟩ := h
      simpa using after?_eq_some_iff.1 hr
    · obtain ⟨⟨a, b⟩, hab, hp⟩ := Option.map_eq_some_iff.1 h
      simp only [Prod.mk.injEq] at hp
      obtain ⟨rfl, rfl⟩ := hp
      simpa using ih hab

/-- **A text is cut at the first occurrence**: none begins before it. -/
theorem length_le_of_cut? {needle t head rest front back : Text}
    (h : cut? needle t = some (head, rest)) (ht : t = front ++ needle ++ back) :
    head.length ≤ front.length := by
  induction t generalizing head front with
  | nil =>
    obtain ⟨_, _, hp⟩ := Option.map_eq_some_iff.1 h
    rw [← (Prod.mk.inj hp).1]
    exact Nat.zero_le _
  | cons c t ih =>
    rw [cut?] at h
    split at h
    · rw [← (Prod.mk.inj (Option.some.inj h)).1]
      exact Nat.zero_le _
    · next hafter =>
      obtain ⟨⟨a, b⟩, hab, hp⟩ := Option.map_eq_some_iff.1 h
      obtain ⟨rfl, rfl⟩ := Prod.mk.inj hp
      -- the needle does not occur at the very start, so there is a front
      cases front with
      | nil =>
        rw [List.nil_append] at ht
        exact absurd (hafter.symm.trans (after?_eq_some_iff.2 ht)) (Option.some_ne_none back).symm
      | cons d front =>
        rw [List.cons_append, List.cons_append] at ht
        exact Nat.succ_le_succ (ih hab (List.cons.inj ht).2)

/-- **A text can be cut at a needle exactly if the needle occurs in it.** -/
theorem exists_cut?_iff {needle t : Text} :
    (∃ head rest, cut? needle t = some (head, rest)) ↔ needle <:+: t := by
  constructor
  · rintro ⟨head, rest, h⟩
    exact ⟨head, rest, (eq_append_of_cut? h).symm⟩
  · rintro ⟨head, rest, rfl⟩
    induction head with
    | nil =>
      -- it occurs at the very start, and is looked for there first
      have hafter : after? needle (needle ++ rest) = some rest := after?_eq_some_iff.2 rfl
      refine ⟨[], rest, ?_⟩
      rw [List.nil_append]
      cases ht : needle ++ rest with
      | nil =>
        rw [ht] at hafter
        rw [cut?, hafter]
        rfl
      | cons c t =>
        rw [ht] at hafter
        rw [cut?, hafter]
    | cons c head ih =>
      obtain ⟨front, back, h⟩ := ih
      rw [List.cons_append, List.cons_append, cut?, h]
      split
      · exact ⟨_, _, rfl⟩
      · exact ⟨_, _, rfl⟩

end Text

end DriftPatch
