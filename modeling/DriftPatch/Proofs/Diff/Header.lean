import DriftPatch.Diff.Format
import DriftPatch.Diff.Parse
import DriftPatch.Proofs.Diff.HeaderForm
import DriftPatch.Proofs.Text.Numeral

/-!
# Hunk headers are read as they were written

A header is four runs of digits with marks between them, and no mark is a
digit of any script. So the digits are told apart again, and the header
means the four numbers it was written from, as long as each of them is
written at all.
-/

namespace DriftPatch

open Numeral

/-- A line that is a header is read as one, if it is read. -/
theorem DiffLine.exists_of_read {l : Line} {v : Header.Written} {d : DiffLine}
    (hv : Header.written? l = some v) (h : read l = .ok d) :
    ∃ header, v.read = .ok header ∧ d = .header header := by
  unfold read at h
  rw [hv] at h
  dsimp only at h
  cases hread : v.read with
  | error e =>
    rw [hread] at h
    cases h
  | ok header =>
    rw [hread] at h
    cases h
    exact ⟨header, rfl, rfl⟩

/-- The digits of a number are a numeral. -/
theorem Numeral.isNumeral_digits (n : Nat) : (digits n).IsNumeral :=
  ⟨digits_ne_nil n, fun _ hc => isDecimalDigit_of_mem_digits hc⟩

namespace Hunk

/-- **A hunk whose header can be written**: no number of it is negative
and none has too many digits. -/
structure Writable (h : Hunk) : Prop where
  /-- The first old line. -/
  oldStart : Fits h.oldStart
  /-- The number of old lines. -/
  oldCount : Fits h.oldCount
  /-- The first new line. -/
  newStart : Fits h.newStart
  /-- The number of new lines. -/
  newCount : Fits h.newCount

instance (h : Hunk) : Decidable h.Writable :=
  decidable_of_iff
    (Fits h.oldStart ∧ Fits h.oldCount ∧ Fits h.newStart ∧ Fits h.newCount)
    ⟨fun hw => ⟨hw.1, hw.2.1, hw.2.2.1, hw.2.2.2⟩, fun hw => ⟨hw.1, hw.2, hw.3, hw.4⟩⟩

/-- What the header of a hunk means. -/
def header (h : Hunk) : Header where
  oldStart := h.oldStart.toNat
  oldCount := h.oldCount.toNat
  newStart := h.newStart.toNat
  newCount := h.newCount.toNat

/-- The header of a hunk as it is written. -/
def headerText (h : Hunk) : Line :=
  ['@', '@', ' ', '-'] ++ (digits h.oldStart.toNat ++ ',' :: (digits h.oldCount.toNat
    ++ ([' ', '+'] ++ (digits h.newStart.toNat ++ ',' :: (digits h.newCount.toNat
      ++ [' ', '@', '@'])))))

theorem headerLine_of_writable {h : Hunk} (hw : h.Writable) :
    h.headerLine = .ok h.headerText := by
  unfold headerLine
  rw [write_of_fits hw.oldStart, write_of_fits hw.oldCount, write_of_fits hw.newStart,
    write_of_fits hw.newCount]
  show Except.ok _ = Except.ok _
  unfold headerText
  simp only [List.append_assoc, List.cons_append, List.nil_append]

/-- A header without signs is written only if all its numbers can be. -/
theorem writable_of_headerLine {h : Hunk} {line : Line} (hline : h.headerLine = .ok line)
    (hsign : 0 ≤ h.oldStart ∧ 0 ≤ h.oldCount ∧ 0 ≤ h.newStart ∧ 0 ≤ h.newCount) :
    h.Writable := by
  unfold headerLine at hline
  obtain ⟨_, hoStart, hline⟩ := exists_ok_of_bind hline
  obtain ⟨_, hoCount, hline⟩ := exists_ok_of_bind hline
  obtain ⟨_, hnStart, hline⟩ := exists_ok_of_bind hline
  obtain ⟨_, hnCount, -⟩ := exists_ok_of_bind hline
  exact ⟨fits_of_write hsign.1 hoStart, fits_of_write hsign.2.1 hoCount,
    fits_of_write hsign.2.2.1 hnStart, fits_of_write hsign.2.2.2 hnCount⟩

/-- The header that is written is found to be one. -/
theorem written?_headerText (h : Hunk) :
    Header.written? h.headerText
      = some ⟨⟨digits h.oldStart.toNat, some (digits h.oldCount.toNat)⟩,
          ⟨digits h.newStart.toNat, some (digits h.newCount.toNat)⟩⟩ := by
  rw [Header.written?_eq_some_iff]
  refine ⟨⟨⟨isNumeral_digits _, ?_⟩, ⟨isNumeral_digits _, ?_⟩⟩, [], ?_⟩
  · rintro _ ⟨⟩
    exact isNumeral_digits _
  · rintro _ ⟨⟩
    exact isNumeral_digits _
  · simp [headerText, Header.Written.text, Header.Range.text]

/-- **A header means the numbers it was written from.** -/
theorem read_headerText {h : Hunk} (hw : h.Writable) :
    DiffLine.read h.headerText = .ok (.header h.header) := by
  unfold DiffLine.read
  rw [written?_headerText]
  show Except.map DiffLine.header (Header.Written.read _) = _
  unfold Header.Written.read Header.Range.readCount
  dsimp only
  rw [read_digits hw.oldStart, read_digits hw.oldCount, read_digits hw.newStart,
    read_digits hw.newCount]
  rfl

end Hunk

end DriftPatch
