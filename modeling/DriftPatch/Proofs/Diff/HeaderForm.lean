import DriftPatch.Diff.Header
import DriftPatch.Proofs.Steps
import Mathlib.Data.List.TakeWhile

/-!
# The form of a hunk header

A line is a header exactly if it begins with `@@ -`, a range, ` +`, a range and
` @@`, where a range is a numeral, or two with a comma between them
(`Header.written?_eq_some_iff`). No two headers are the beginning of one line, since
a numeral ends where the digits end, and neither a comma nor a blank is a digit.

What a header means is settled numeral by numeral, and there is a meaning exactly
if none of them has too many digits (`Header.Written.read_eq_ok_iff`).
-/

namespace DriftPatch

/-- **A numeral**: at least one digit, of whatever scripts. -/
def Text.IsNumeral (ds : Text) : Prop :=
  ds ≠ [] ∧ ∀ c ∈ ds, Text.isDecimalDigit c = true

/-- A numeral is read if it has few enough digits. -/
theorem Numeral.read_eq_ok_iff {ds : Text} {n : Nat} :
    read ds = .ok n ↔ ds.length ≤ maxDigits ∧ n = value ds := by
  unfold read
  split
  · next hlength => simp [hlength, eq_comm]
  · next hlength => simp [hlength]

namespace Header

namespace Range

/-- The text of a range. -/
def text (r : Range) : Text :=
  r.start ++ r.count.elim [] (',' :: ·)

/-- **A range of numbers**: its parts are numerals. -/
structure IsNumeric (r : Range) : Prop where
  /-- The first line. -/
  start : r.start.IsNumeral
  /-- The count, where there is one. -/
  count : ∀ ds ∈ r.count, ds.IsNumeral

/-- The number of lines that a range means. -/
def lineCount (r : Range) : Nat :=
  r.count.elim 1 Numeral.value

end Range

namespace Written

/-- The text of a header, without what may follow it on its line. -/
def text (w : Written) : Text :=
  ['@', '@', ' ', '-'] ++ w.old.text ++ [' ', '+'] ++ w.new.text ++ [' ', '@', '@']

/-- **A header of numbers**. -/
structure IsNumeric (w : Written) : Prop where
  /-- The range in the old text. -/
  old : w.old.IsNumeric
  /-- The range in the new text. -/
  new : w.new.IsNumeric

/-- The numerals of a header. -/
def numerals (w : Written) : List Text :=
  w.old.start :: w.old.count.toList ++ w.new.start :: w.new.count.toList

/-- **A header that can be read**: none of its numerals has too many digits. -/
def IsReadable (w : Written) : Prop :=
  ∀ ds ∈ w.numerals, ds.length ≤ Numeral.maxDigits

/-- What the header means. -/
def meaning (w : Written) : Header where
  oldStart := Numeral.value w.old.start
  oldCount := w.old.lineCount
  newStart := Numeral.value w.new.start
  newCount := w.new.lineCount

end Written

/-! ## Numerals and ranges at the front of a text -/

variable {c : Char} {ds t rest : Text} {r : Range}

theorem digits?_append (hds : ds.IsNumeral) (hc : Text.isDecimalDigit c = false) (rest : Text) :
    digits? (ds ++ c :: rest) = some (ds, c :: rest) := by
  have hnot : ¬Text.isDecimalDigit c = true := by
    rw [hc]
    exact Bool.false_ne_true
  unfold digits?
  rw [List.takeWhile_append_of_pos hds.2, List.takeWhile_cons_of_neg hnot, List.append_nil,
    List.dropWhile_append_of_pos hds.2, List.dropWhile_cons_of_neg hnot]
  obtain ⟨d, ds, rfl⟩ := List.exists_cons_of_ne_nil hds.1
  rfl

theorem digits?_eq_some (h : digits? t = some (ds, rest)) : ds.IsNumeral ∧ t = ds ++ rest := by
  unfold digits? at h
  split at h
  · cases h
  · next digits hne =>
    obtain ⟨rfl, rfl⟩ := Prod.mk.inj (Option.some.inj h)
    exact ⟨⟨hne, fun c hc => List.mem_takeWhile_imp hc⟩, List.takeWhile_append_dropWhile.symm⟩

/-- A range in front of something that does not go on with it. -/
theorem range?_append (hr : r.IsNumeric) (hc : Text.isDecimalDigit c = false) (hcomma : c ≠ ',')
    (rest : Text) : range? (r.text ++ c :: rest) = some (r, c :: rest) := by
  obtain ⟨start, count⟩ := r
  unfold range? Range.text
  cases count with
  | none =>
    rw [Option.elim_none, List.append_nil, digits?_append hr.start hc]
    simp only [Option.bind_eq_bind, Option.bind_some]
    split
    · next heq => exact absurd (List.cons.inj heq).1 hcomma
    · rfl
  | some count =>
    have hcommaDigit : Text.isDecimalDigit ',' = false := by decide
    rw [Option.elim_some, List.append_assoc, List.cons_append,
      digits?_append hr.start hcommaDigit]
    simp only [Option.bind_eq_bind, Option.bind_some, digits?_append (hr.count count rfl) hc]

theorem range?_eq_some (h : range? t = some (r, rest)) : r.IsNumeric ∧ t = r.text ++ rest := by
  obtain ⟨⟨start, more⟩, hstart, hcount⟩ := Option.bind_eq_some_iff.1 h
  obtain ⟨hnumeral, ht⟩ := digits?_eq_some hstart
  have hbare (h : some ((⟨start, none⟩ : Range), more) = some (r, rest)) :
      r.IsNumeric ∧ t = r.text ++ rest := by
    obtain ⟨rfl, rfl⟩ := Prod.mk.inj (Option.some.inj h)
    exact ⟨⟨hnumeral, nofun⟩, by rw [ht, Range.text, Option.elim_none, List.append_nil]⟩
  dsimp only at hcount
  split at hcount
  · split at hcount
    · next hdigits =>
      obtain ⟨hnumeralCount, hmore⟩ := digits?_eq_some hdigits
      obtain ⟨rfl, rfl⟩ := Prod.mk.inj (Option.some.inj hcount)
      refine ⟨⟨hnumeral, fun ds hds => Option.some.inj hds ▸ hnumeralCount⟩, ?_⟩
      rw [ht, hmore, Range.text, Option.elim_some, List.append_assoc, List.cons_append]
    · exact hbare hcount
  · exact hbare hcount

/-! ## Headers -/

variable {line : Line} {w : Written} {header : Header}

/-- **The lines that are headers**, and what is written there. -/
theorem written?_eq_some_iff : written? line = some w ↔ w.IsNumeric ∧ w.text <+: line := by
  constructor
  · intro h
    obtain ⟨front, hfront, h⟩ := Option.bind_eq_some_iff.1 h
    obtain ⟨⟨old, middle⟩, hold, h⟩ := Option.bind_eq_some_iff.1 h
    obtain ⟨between, hbetween, h⟩ := Option.bind_eq_some_iff.1 h
    obtain ⟨⟨new, back⟩, hnew, h⟩ := Option.bind_eq_some_iff.1 h
    obtain ⟨rest, hrest, h⟩ := Option.bind_eq_some_iff.1 h
    obtain rfl := Option.some.inj h
    obtain ⟨holdNumeric, hold⟩ := range?_eq_some hold
    obtain ⟨hnewNumeric, hnew⟩ := range?_eq_some hnew
    refine ⟨⟨holdNumeric, hnewNumeric⟩, rest, ?_⟩
    rw [Text.after?_eq_some_iff.1 hfront, hold, Text.after?_eq_some_iff.1 hbetween, hnew,
      Text.after?_eq_some_iff.1 hrest]
    simp only [Written.text, List.append_assoc]
  · rintro ⟨hw, rest, rfl⟩
    have hblank : Text.isDecimalDigit ' ' = false := by decide
    have hcomma : ' ' ≠ ',' := by decide
    -- each cut is made where the header was put together
    have hfront : Text.after? ['@', '@', ' ', '-'] (w.text ++ rest)
        = some (w.old.text ++ ' ' :: '+' :: (w.new.text ++ ' ' :: '@' :: '@' :: rest)) :=
      Text.after?_eq_some_iff.2 (by simp [Written.text])
    have hmiddle (t : Text) : Text.after? [' ', '+'] (' ' :: '+' :: t) = some t :=
      Text.after?_eq_some_iff.2 rfl
    have hback (t : Text) : Text.after? [' ', '@', '@'] (' ' :: '@' :: '@' :: t) = some t :=
      Text.after?_eq_some_iff.2 rfl
    unfold written?
    rw [hfront]
    simp only [Option.bind_eq_bind, Option.bind_some, range?_append hw.old hblank hcomma, hmiddle,
      range?_append hw.new hblank hcomma, hback]
    rfl

/-! ## Meanings -/

theorem readCount_eq_ok_iff {n : Nat} : r.readCount = .ok n
    ↔ (∀ ds ∈ r.count.toList, ds.length ≤ Numeral.maxDigits) ∧ n = r.lineCount := by
  obtain ⟨start, count⟩ := r
  unfold Range.readCount Range.lineCount
  cases count with
  | none => simp [eq_comm]
  | some ds => simp [Numeral.read_eq_ok_iff]

theorem Written.isReadable_iff : w.IsReadable
    ↔ w.old.start.length ≤ Numeral.maxDigits
      ∧ (∀ ds ∈ w.old.count.toList, ds.length ≤ Numeral.maxDigits)
      ∧ w.new.start.length ≤ Numeral.maxDigits
      ∧ ∀ ds ∈ w.new.count.toList, ds.length ≤ Numeral.maxDigits := by
  unfold IsReadable numerals
  rw [List.forall_mem_append, List.forall_mem_cons, List.forall_mem_cons, and_assoc]

/-- **What a header means**, if it can be read. -/
theorem Written.read_eq_ok_iff : w.read = .ok header ↔ w.IsReadable ∧ header = w.meaning := by
  unfold Written.read
  rw [isReadable_iff]
  simp only [bind_eq_ok_iff, Numeral.read_eq_ok_iff, readCount_eq_ok_iff]
  constructor
  · rintro ⟨_, ⟨hoStart, rfl⟩, _, ⟨hoCount, rfl⟩, _, ⟨hnStart, rfl⟩, _, ⟨hnCount, rfl⟩, h⟩
    exact ⟨⟨hoStart, hoCount, hnStart, hnCount⟩, (Except.ok.inj h).symm⟩
  · rintro ⟨⟨hoStart, hoCount, hnStart, hnCount⟩, rfl⟩
    exact ⟨_, ⟨hoStart, rfl⟩, _, ⟨hoCount, rfl⟩, _, ⟨hnStart, rfl⟩, _, ⟨hnCount, rfl⟩, rfl⟩

end Header

end DriftPatch
