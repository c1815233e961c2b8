import DriftPatch.Text.Blank
import Mathlib.Data.List.DropRight

/-!
# Texts as lists of lines

Splitting a text into lines and joining lines into a text undo each other,
as far as they can: every text is joined from its lines, and a list of
lines is found again in the text it makes unless it is empty or one of its
lines holds a line feed.

Two further views of lines are compared with this one. Folding the line
ends of a text takes a carriage return from the end of every line **but
the last**, since only a return that a line feed follows is folded:
`settle` says so of lists of lines, and remembers whether the list is
followed by more. Stripping a line takes the blanks from its ends, a
carriage return among them, so that two lines that differ by a folded
return are the same line to whoever compares stripped lines.
-/

namespace DriftPatch.Text

/-! ## Splitting and joining -/

/-- **A text is joined from its lines.** -/
@[simp] theorem ofLines_lines (t : Text) : ofLines t.lines = t :=
  List.intercalate_splitOn '\n'

theorem lines_ne_nil (t : Text) : t.lines ≠ [] :=
  List.splitOn_ne_nil '\n' t

/-- **Lines are found again in the text they make**, unless there are none
or one of them holds a line feed. -/
theorem lines_ofLines {ls : List Line} (hne : ls ≠ [])
    (h : ∀ l ∈ ls, '\n' ∉ l) : lines (ofLines ls) = ls :=
  List.splitOn_intercalate '\n' h hne

/-- No line of a text holds a line feed. -/
theorem feed_notMem_of_mem_lines {t : Text} {l : Line} (hl : l ∈ t.lines) :
    '\n' ∉ l := by
  unfold lines at hl
  induction t generalizing l with
  | nil =>
    rw [List.splitOn_nil, List.mem_singleton] at hl
    rw [hl]
    exact List.not_mem_nil
  | cons c t ih =>
    rw [List.splitOn_cons_eq_if_modifyHead] at hl
    split at hl
    · rcases List.mem_cons.1 hl with rfl | hl
      · exact List.not_mem_nil
      · exact ih hl
    · next hc =>
      obtain ⟨m, ms, hms⟩ := List.exists_cons_of_ne_nil (List.splitOn_ne_nil '\n' t)
      rw [hms, List.modifyHead_cons] at hl
      rw [hms] at ih
      rcases List.mem_cons.1 hl with rfl | hl
      · have hne : '\n' ≠ c := fun e => hc (beq_iff_eq.2 e.symm)
        exact List.not_mem_cons_of_ne_of_not_mem hne (ih (List.mem_cons_self ..))
      · exact ih (List.mem_cons_of_mem _ hl)

@[simp] theorem ofLines_singleton (l : Line) : ofLines [l] = l :=
  List.intercalate_singleton

theorem ofLines_cons {ls : List Line} (l : Line) (h : ls ≠ []) :
    ofLines (l :: ls) = l ++ '\n' :: ofLines ls := by
  unfold ofLines
  rw [List.intercalate_cons_of_ne_nil h, List.append_assoc]
  rfl

/-- Lines are joined to other lines by a line feed. -/
theorem ofLines_append {ls ms : List Line} (hls : ls ≠ []) (hms : ms ≠ []) :
    ofLines (ls ++ ms) = ofLines ls ++ '\n' :: ofLines ms := by
  induction ls with
  | nil => exact absurd rfl hls
  | cons l ls ih =>
    rw [List.cons_append, ofLines_cons l (List.append_ne_nil_of_right_ne_nil ls hms)]
    by_cases hnil : ls = []
    · rw [hnil, List.nil_append, ofLines_singleton]
    · rw [ih hnil, ofLines_cons l hnil, List.append_assoc, List.cons_append]

/-- A line holds nothing that its text does not hold. -/
theorem mem_of_mem_lines {t : Text} {l : Line} {c : Char} (hl : l ∈ t.lines) (hc : c ∈ l) :
    c ∈ t := by
  have hjoined {ls : List Line} (hl : l ∈ ls) : c ∈ ofLines ls := by
    induction ls with
    | nil => cases hl
    | cons m ls ih =>
      by_cases hls : ls = []
      · rw [hls, List.mem_singleton] at hl
        rwa [hls, ofLines_singleton, ← hl]
      · rw [ofLines_cons m hls, List.mem_append, List.mem_cons]
        rcases List.mem_cons.1 hl with rfl | hl
        · exact .inl hc
        · exact .inr (.inr (ih hl))
  rw [← ofLines_lines t]
  exact hjoined hl

/-! ## Texts put together

Where one text follows another one, the last line of the first and the first
line of the second become one line. All other lines stay as they are. -/

/-- **A line feed parts the lines of a text.** -/
theorem lines_append_feed (t u : Text) : lines (t ++ '\n' :: u) = t.lines ++ u.lines :=
  List.splitOn_append_cons_self t u

/-- **Lines fall into lines where they hold line feeds.** -/
theorem lines_ofLines_eq_flatMap {ls : List Line} (hne : ls ≠ []) :
    lines (ofLines ls) = ls.flatMap lines := by
  induction ls with
  | nil => exact absurd rfl hne
  | cons l ls ih =>
    by_cases hls : ls = []
    · rw [hls, ofLines_singleton, List.flatMap_singleton]
    · rw [ofLines_cons l hls, lines_append_feed, ih hls, List.flatMap_cons]

theorem flatMap_lines_eq_self {ls : List Line} (h : ∀ l ∈ ls, '\n' ∉ l) :
    ls.flatMap lines = ls := by
  by_cases hne : ls = []
  · rw [hne]
    rfl
  · rw [← lines_ofLines_eq_flatMap hne, lines_ofLines hne h]

/-- A text has one more line than it has line feeds. -/
theorem length_lines (t : Text) : t.lines.length = t.count '\n' + 1 := by
  induction t with
  | nil => rfl
  | cons c t ih =>
    unfold lines at ih ⊢
    rw [List.splitOn_cons_eq_if_modifyHead, List.count_cons]
    split
    · rw [List.length_cons, ih]
    · rw [List.length_modifyHead, ih, Nat.add_zero]

/-- Lines are joined by one line feed less than there are lines. -/
theorem count_feed_ofLines {ls : List Line} (h : ∀ l ∈ ls, '\n' ∉ l) :
    (ofLines ls).count '\n' = ls.length - 1 := by
  by_cases hne : ls = []
  · rw [hne]
    rfl
  · have hlines := length_lines (ofLines ls)
    rw [lines_ofLines hne h] at hlines
    omega

/-- Between two lines that a text is put into, the last one of what is before
and the first one of what is after go on with the text. -/
theorem ofLines_append_append (lead : List Line) (l t r : Text) (trail : List Line) :
    ofLines (lead ++ [l]) ++ t ++ ofLines (r :: trail)
      = ofLines (lead ++ (l ++ t ++ r) :: trail) := by
  induction lead with
  | nil =>
    by_cases htrail : trail = []
    · rw [htrail, List.nil_append, List.nil_append, ofLines_singleton, ofLines_singleton,
        ofLines_singleton]
    · rw [List.nil_append, List.nil_append, ofLines_singleton, ofLines_cons r htrail,
        ofLines_cons (l ++ t ++ r) htrail, List.append_assoc (l ++ t)]
  | cons k lead ih =>
    rw [List.cons_append, List.cons_append, ofLines_cons k (by simp), ofLines_cons k (by simp),
      ← ih, List.append_assoc, List.append_assoc, List.append_assoc, List.cons_append]

/-- **Lines between others are a piece of the text**, and what is before it and
behind it is the same whatever lines they are. -/
theorem exists_text_around (lead trail : List Line) :
    ∃ front back, ∀ ls : List Line, ls ≠ [] →
      ofLines (lead ++ ls ++ trail) = front ++ ofLines ls ++ back := by
  have hfront : ∃ front, ∀ ls : List Line, ls ≠ [] →
      ofLines (lead ++ ls) = front ++ ofLines ls := by
    by_cases hlead : lead = []
    · exact ⟨[], fun ls _ => by rw [hlead]; rfl⟩
    · refine ⟨ofLines lead ++ ['\n'], fun ls hls => ?_⟩
      rw [ofLines_append hlead hls, List.append_assoc]
      rfl
  have hback : ∃ back, ∀ ls : List Line, ls ≠ [] → ofLines (ls ++ trail) = ofLines ls ++ back := by
    by_cases htrail : trail = []
    · exact ⟨[], fun ls _ => by rw [htrail, List.append_nil, List.append_nil]⟩
    · exact ⟨'\n' :: ofLines trail, fun ls hls => ofLines_append hls htrail⟩
  obtain ⟨front, hfront⟩ := hfront
  obtain ⟨back, hback⟩ := hback
  refine ⟨front, back, fun ls hls => ?_⟩
  rw [hback _ (List.append_ne_nil_of_right_ne_nil lead hls), hfront ls hls]

/-- **A text within a text changes only the lines that it reaches into.** The
lines before it and after it are whatever the text in between is. -/
theorem exists_lines_around (front back : Text) :
    ∃ lead l r trail, '\n' ∉ l ∧ '\n' ∉ r
      ∧ ∀ t, lines (front ++ t ++ back) = lead ++ lines (l ++ t ++ r) ++ trail := by
  obtain ⟨lead, l, hfront⟩ := (List.eq_nil_or_concat front.lines).resolve_left (lines_ne_nil front)
  rw [List.concat_eq_append] at hfront
  obtain ⟨r, trail, hback⟩ := List.exists_cons_of_ne_nil (lines_ne_nil back)
  have hfeedFront : ∀ k ∈ lead ++ [l], '\n' ∉ k := by
    rw [← hfront]
    exact fun k hk => feed_notMem_of_mem_lines hk
  have hfeedBack : ∀ k ∈ r :: trail, '\n' ∉ k := by
    rw [← hback]
    exact fun k hk => feed_notMem_of_mem_lines hk
  rw [List.forall_mem_append, List.forall_mem_singleton] at hfeedFront
  rw [List.forall_mem_cons] at hfeedBack
  refine ⟨lead, l, r, trail, hfeedFront.2, hfeedBack.1, fun t => ?_⟩
  calc lines (front ++ t ++ back)
      = lines (ofLines (lead ++ [l]) ++ t ++ ofLines (r :: trail)) := by
        rw [← hfront, ← hback, ofLines_lines, ofLines_lines]
    _ = (lead ++ (l ++ t ++ r) :: trail).flatMap lines := by
        rw [ofLines_append_append, lines_ofLines_eq_flatMap (by simp)]
    _ = lead ++ lines (l ++ t ++ r) ++ trail := by
        rw [List.flatMap_append, List.flatMap_cons, flatMap_lines_eq_self hfeedFront.1,
          flatMap_lines_eq_self hfeedBack.2, List.append_assoc lead]

/-! ## Line ends

A list of lines is a run of lines within a text, and whether more of the
text follows decides what becomes of its last line. -/

/-- A line less the carriage return at its end, if there is one. -/
def withoutReturn (l : Line) : Line :=
  if l.getLast? = some '\r' then l.dropLast else l

/-- **Lines after the folding of line ends.** A line that another one
follows loses the carriage return at its end; `more` says whether a line
follows the last one. -/
def settle (more : Bool) : List Line → List Line
  | [] => []
  | l :: ls => (if more || !ls.isEmpty then l.withoutReturn else l) :: settle more ls

theorem withoutReturn_of_getLast?_ne {l : Line} (h : l.getLast? ≠ some '\r') :
    l.withoutReturn = l :=
  if_neg h

theorem withoutReturn_append_return (l : Line) :
    withoutReturn (l ++ ['\r']) = l := by
  rw [withoutReturn, List.getLast?_concat, if_pos rfl, List.dropLast_concat]

/-- A line ends in a carriage return or loses nothing. -/
theorem eq_append_return_or (l : Line) :
    l = l.withoutReturn ++ ['\r'] ∨ l.withoutReturn = l := by
  by_cases h : l.getLast? = some '\r'
  · left
    obtain ⟨m, rfl⟩ := List.getLast?_eq_some_iff.1 h
    rw [withoutReturn_append_return]
  · exact Or.inr (withoutReturn_of_getLast?_ne h)

theorem withoutReturn_eq_self_iff {l : Line} :
    l.withoutReturn = l ↔ l.getLast? ≠ some '\r' := by
  refine ⟨fun h he => ?_, withoutReturn_of_getLast?_ne⟩
  obtain ⟨m, rfl⟩ := List.getLast?_eq_some_iff.1 he
  rw [withoutReturn_append_return] at h
  exact absurd (List.self_eq_append_right.1 h) (List.cons_ne_nil _ _)

theorem mem_of_mem_withoutReturn {l : Line} {c : Char}
    (h : c ∈ l.withoutReturn) : c ∈ l := by
  unfold withoutReturn at h
  split at h
  · exact (List.dropLast_sublist l).subset h
  · exact h

/-- A mark in front of a line, itself no carriage return, is none of the
line's end. -/
theorem withoutReturn_cons {c : Char} (hc : c ≠ '\r') (l : Line) :
    withoutReturn (c :: l) = c :: l.withoutReturn := by
  cases l with
  | nil => simp [withoutReturn, hc]
  | cons d l =>
    unfold withoutReturn
    rw [List.getLast?_cons_cons, List.dropLast_cons_cons]
    split <;> rfl

@[simp] theorem settle_eq_nil_iff {more : Bool} {ls : List Line} :
    settle more ls = [] ↔ ls = [] := by
  cases ls <;> simp [settle]

theorem length_settle (more : Bool) (ls : List Line) :
    (settle more ls).length = ls.length := by
  induction ls with
  | nil => rfl
  | cons l ls ih => rw [settle, List.length_cons, List.length_cons, ih]

theorem settle_append (more : Bool) (ls ms : List Line) :
    settle more (ls ++ ms) = settle (more || !ms.isEmpty) ls ++ settle more ms := by
  induction ls with
  | nil => rfl
  | cons l ls ih =>
    rw [List.cons_append, settle, settle, ih, List.cons_append]
    cases ls <;> cases ms <;> cases more <;> rfl

/-- Marks in front of the lines stay where they are. -/
theorem settle_map_cons {c : Char} (hc : c ≠ '\r') (more : Bool) (ls : List Line) :
    settle more (ls.map (c :: ·)) = (settle more ls).map (c :: ·) := by
  induction ls with
  | nil => rfl
  | cons l ls ih =>
    rw [List.map_cons, settle, settle, List.map_cons, ih, List.isEmpty_map,
      withoutReturn_cons hc]
    split <;> rfl

theorem feed_notMem_of_mem_settle {more : Bool} {ls : List Line}
    (h : ∀ l ∈ ls, '\n' ∉ l) : ∀ l ∈ settle more ls, '\n' ∉ l := by
  induction ls with
  | nil => exact h
  | cons l ls ih =>
    rw [List.forall_mem_cons] at h
    rw [settle, List.forall_mem_cons]
    refine ⟨?_, ih h.2⟩
    split
    · exact fun hm => h.1 (mem_of_mem_withoutReturn hm)
    · exact h.1

/-- The last line of all is as it was. -/
theorem getLast?_settle_false (ls : List Line) :
    (settle false ls).getLast? = ls.getLast? := by
  induction ls with
  | nil => rfl
  | cons l ls ih =>
    rw [settle]
    cases ls with
    | nil => rfl
    | cons m ls =>
      rw [settle] at ih ⊢
      rw [List.getLast?_cons_cons, ih, List.getLast?_cons_cons]

/-- **Nothing is lost exactly where no line but the last ends in a
carriage return.** -/
theorem settle_false_eq_self_iff {ls : List Line} :
    settle false ls = ls ↔ ∀ l ∈ ls.dropLast, l.getLast? ≠ some '\r' := by
  induction ls with
  | nil => simp [settle]
  | cons l ls ih =>
    cases ls with
    | nil => simp [settle]
    | cons m ls =>
      rw [settle, List.cons.injEq, ih, List.dropLast_cons_cons, List.forall_mem_cons,
        ← withoutReturn_eq_self_iff]
      rfl

/-- A return that is lost from lines is lost from the text they end. -/
theorem settle_eq_self_of_ofLines_eq {kept added : List Line} (hne : kept ++ added ≠ [])
    (hfeed : ∀ l ∈ kept ++ added, '\n' ∉ l)
    (h : ofLines (kept ++ settle false added) = ofLines (kept ++ added)) :
    settle false added = added := by
  have hne' : kept ++ settle false added ≠ [] := by
    rwa [ne_eq, List.append_eq_nil_iff, settle_eq_nil_iff, ← List.append_eq_nil_iff]
  have hfeed' : ∀ l ∈ kept ++ settle false added, '\n' ∉ l := by
    rw [List.forall_mem_append] at hfeed ⊢
    exact ⟨hfeed.1, feed_notMem_of_mem_settle hfeed.2⟩
  have hlines := lines_ofLines hne' hfeed'
  rw [h, lines_ofLines hne hfeed] at hlines
  exact (List.append_cancel_left hlines).symm

theorem settle_eq_self {more : Bool} {ls : List Line}
    (h : ∀ l ∈ ls, l.getLast? ≠ some '\r') : settle more ls = ls := by
  induction ls with
  | nil => rfl
  | cons l ls ih =>
    rw [List.forall_mem_cons] at h
    rw [settle, ih h.2, withoutReturn_of_getLast?_ne h.1, ite_self]

/-! ### Folding the line ends of a text -/

theorem foldLineEnds_of_feed_notMem {l : Line} (h : '\n' ∉ l) :
    foldLineEnds l = l := by
  induction l with
  | nil => rfl
  | cons c l ih =>
    have hl : '\n' ∉ l := List.not_mem_of_not_mem_cons h
    rw [foldLineEnds, ih hl]
    rintro rest - rfl
    exact hl (List.mem_cons_self ..)

/-- What folding does at a line feed: the return before it goes. -/
theorem foldLineEnds_append_feed {l : Line} (h : '\n' ∉ l) (t : Text) :
    foldLineEnds (l ++ '\n' :: t) = l.withoutReturn ++ '\n' :: foldLineEnds t := by
  induction l with
  | nil => rfl
  | cons c l ih =>
    have hl : '\n' ∉ l := List.not_mem_of_not_mem_cons h
    rw [List.cons_append]
    -- only a return right before the line feed is folded
    cases l with
    | nil =>
      by_cases hc : c = '\r'
      · rw [hc]
        rfl
      · rw [withoutReturn_cons hc]
        show foldLineEnds (c :: '\n' :: t) = c :: '\n' :: foldLineEnds t
        rw [foldLineEnds, foldLineEnds]
        · rintro rest e
          exact absurd e (by decide)
        · rintro rest e
          exact absurd e hc
    | cons d l =>
      have hd : d ≠ '\n' := fun e => hl (e ▸ List.mem_cons_self ..)
      rw [foldLineEnds, ih hl, withoutReturn, withoutReturn, List.getLast?_cons_cons,
        List.dropLast_cons_cons]
      · split <;> rfl
      · rintro rest - e
        exact hd (List.cons.inj e).1

/-- **Folding the line ends of a text settles its lines.** -/
theorem foldLineEnds_ofLines {ls : List Line} (h : ∀ l ∈ ls, '\n' ∉ l) :
    foldLineEnds (ofLines ls) = ofLines (settle false ls) := by
  induction ls with
  | nil => rfl
  | cons l ls ih =>
    rw [List.forall_mem_cons] at h
    -- the last line has no line feed behind it
    by_cases hls : ls = []
    · rw [hls, settle, settle, ofLines_singleton, foldLineEnds_of_feed_notMem h.1]
      exact (ofLines_singleton l).symm
    · have hne : settle false ls ≠ [] := fun e => hls (settle_eq_nil_iff.1 e)
      have hmore : (false || !ls.isEmpty) = true := by simpa using hls
      rw [ofLines_cons l hls, foldLineEnds_append_feed h.1, ih h.2, settle,
        if_pos hmore, ofLines_cons _ hne]

/-- A text without returns has no line ends to fold. -/
theorem foldLineEnds_of_return_notMem {t : Text} (h : '\r' ∉ t) : foldLineEnds t = t := by
  have hends : ∀ l ∈ t.lines, l.getLast? ≠ some '\r' :=
    fun l hl hlast => h (mem_of_mem_lines hl (List.mem_of_getLast? hlast))
  have hfold := foldLineEnds_ofLines fun _ (hl : _ ∈ t.lines) => feed_notMem_of_mem_lines hl
  rwa [settle_eq_self hends, ofLines_lines] at hfold

/-! ## Blanks at the ends of lines -/

/-- What is stripped is a piece of the text. -/
theorem isInfix_strip (t : Text) : strip t <:+: t :=
  (List.rdropWhile_prefix isBlank (stripLeft t)).isInfix.trans
    (List.dropWhile_suffix isBlank).isInfix

/-- **What is stripped has no blanks at its ends.** -/
@[simp] theorem strip_strip (t : Text) : strip (strip t) = strip t := by
  have hleft : stripLeft (strip t) = strip t := by
    refine List.dropWhile_eq_self_iff.2 fun hl => ?_
    -- it begins as the text does from its first character that is not blank
    have hfront : strip t <+: stripLeft t := List.rdropWhile_prefix isBlank (stripLeft t)
    rw [hfront.getElem hl]
    exact List.dropWhile_get_zero_not isBlank t (Nat.lt_of_lt_of_le hl hfront.length_le)
  rw [strip, hleft]
  exact List.rdropWhile_idempotent isBlank (stripLeft t)

theorem stripRight_append_of_isBlank {c : Char} (hc : isBlank c = true) (t : Text) :
    stripRight (t ++ [c]) = stripRight t := by
  rw [stripRight, stripRight, List.reverse_concat, List.dropWhile_cons_of_pos hc]

theorem strip_append_of_isBlank {c : Char} (hc : isBlank c = true) (t : Text) :
    strip (t ++ [c]) = strip t := by
  unfold strip stripLeft
  rw [List.dropWhile_append]
  split
  · next he =>
    rw [List.isEmpty_iff.1 he, List.dropWhile_cons_of_pos hc]
    rfl
  · exact stripRight_append_of_isBlank hc _

/-- A carriage return at the end of a line is a blank like any other. -/
@[simp] theorem strip_withoutReturn (l : Line) : strip l.withoutReturn = strip l := by
  rcases eq_append_return_or l with h | h
  · have hblank : isBlank '\r' = true := by decide
    calc strip l.withoutReturn
        = strip (l.withoutReturn ++ ['\r']) := (strip_append_of_isBlank hblank _).symm
      _ = strip l := by rw [← h]
  · rw [h]

/-- A line that neither begins nor ends with blanks has no return at its end. -/
theorem withoutReturn_of_strip {l : Line} (h : l.strip = l) : l.withoutReturn = l := by
  rcases eq_append_return_or l with hreturn | hkept
  · -- the line would be a piece of what is left of it without the return
    have hpiece := isInfix_strip l.withoutReturn
    rw [strip_withoutReturn, h] at hpiece
    have hlength := congrArg List.length hreturn
    rw [List.length_append, List.length_singleton] at hlength
    exact absurd hpiece.length_le (by omega)
  · exact hkept

theorem map_strip_settle (more : Bool) (ls : List Line) :
    (settle more ls).map strip = ls.map strip := by
  induction ls with
  | nil => rfl
  | cons l ls ih =>
    rw [settle, List.map_cons, List.map_cons, ih]
    split
    · rw [strip_withoutReturn]
    · rfl

end DriftPatch.Text
