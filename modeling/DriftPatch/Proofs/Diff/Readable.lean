import DriftPatch.Proofs.Diff.HunkText
import DriftPatch.Proofs.Diff.Received

/-!
# Which texts can be read

Whatever stands on a line, it means something, be it nothing that concerns a diff.
The numbers of a header are the one exception: a numeral of too many digits has no
value, even if that is a small number with zeros in front. Nothing else can go
wrong, and one such line is enough to keep all of a text from being read
(`Diff.exists_parse_eq_ok_iff`).
-/

namespace DriftPatch.Diff

variable {l : Line} {text : Text}

/-- **A line can be read** if it has no header, or one that can be read. -/
theorem exists_read_eq_ok_iff : (∃ d, DiffLine.read l = .ok d)
    ↔ ∀ w : Header.Written, w.IsNumeric → w.text <+: l → w.IsReadable := by
  refine ⟨fun ⟨d, hd⟩ w hw htext => isReadable_of_read hw htext hd, fun hread => ?_⟩
  by_cases hl : Header.Begins l
  · obtain ⟨w, hw, htext⟩ := hl
    exact ⟨_, read_of_isReadable hw htext (hread w hw htext)⟩
  · exact ⟨_, read_of_not_begins hl⟩

/-- **A text can be read** if each of its lines can. -/
theorem exists_parse_eq_ok_iff_lines :
    (∃ d, parse text = .ok d) ↔ ∀ l ∈ textLines text, ∃ d, DiffLine.read l = .ok d := by
  rw [← exists_mapM_eq_ok_iff]
  constructor
  · rintro ⟨d, hd⟩
    obtain ⟨hunks, hhunks, -⟩ := exists_ok_of_bind hd
    obtain ⟨ds, hds, -⟩ := exists_ok_of_bind hhunks
    exact ⟨ds, hds⟩
  · rintro ⟨ds, hds⟩
    exact ⟨_, bind_eq_ok_iff.2 ⟨_, bind_eq_ok_iff.2 ⟨ds, hds, rfl⟩, rfl⟩⟩

/-! ## A header on its own -/

/-- The header of a hunk that starts at a certain old line. -/
def startingAt (ds : Text) : Header.Written :=
  ⟨⟨ds, none⟩, ⟨['1'], none⟩⟩

theorem text_startingAt (ds : Text) :
    (startingAt ds).text = ['@', '@', ' ', '-'] ++ ds ++ [' ', '+', '1', ' ', '@', '@'] := by
  simp [startingAt, Header.Written.text, Header.Range.text]

theorem textLines_startingAt {ds : Text} (hds : ds.IsNumeral) :
    textLines (startingAt ds).text = [(startingAt ds).text] := by
  have hfeed : '\n' ∉ ds := fun hmem => absurd (hds.2 '\n' hmem) (by decide)
  have hline : '\n' ∉ (startingAt ds).text := by
    rw [text_startingAt]
    simpa using hfeed
  have htext := textLines_ofLines (List.cons_ne_nil (startingAt ds).text [])
    (List.forall_mem_singleton.2 hline) (List.forall_mem_singleton.2 (List.cons_ne_nil _ _))
  rwa [Text.ofLines_singleton] at htext

theorem isNumeric_startingAt {ds : Text} (hds : ds.IsNumeral) : (startingAt ds).IsNumeric := by
  have hone : Text.IsNumeral ['1'] :=
    ⟨List.cons_ne_nil _ _, List.forall_mem_singleton.2 (by decide)⟩
  exact ⟨⟨hds, nofun⟩, ⟨hone, nofun⟩⟩

/-- A numeral of too many digits is not read, whatever number it denotes. -/
theorem not_exists_parse_startingAt {ds : Text} (hds : ds.IsNumeral)
    (hlong : Numeral.maxDigits < ds.length) : ¬∃ d, parse (startingAt ds).text = .ok d := by
  rw [exists_parse_eq_ok_iff_lines, textLines_startingAt hds, List.forall_mem_singleton,
    exists_read_eq_ok_iff]
  intro hread
  have hstart := hread _ (isNumeric_startingAt hds) List.prefix_rfl ds (List.mem_cons_self ..)
  omega

/-! ## Any text -/

/-- **A text can be read exactly if no header of it has a number of too many
digits.** -/
theorem exists_parse_eq_ok_iff (text : Text) : (∃ d, parse text = .ok d)
    ↔ ∀ l ∈ textLines text, ∀ w : Header.Written, w.IsNumeric → w.text <+: l → w.IsReadable := by
  rw [exists_parse_eq_ok_iff_lines]
  exact forall₂_congr fun l _ => exists_read_eq_ok_iff

/-- **Not every text can be read**: with 4300 zeros in front, one is written in too
many digits. -/
theorem not_exists_parse_zeros : ¬∃ d, parse (['@', '@', ' ', '-'] ++ List.replicate 4300 '0'
    ++ ['1', ' ', '+', '1', ' ', '@', '@']) = .ok d := by
  have hdigits : ∀ c ∈ List.replicate 4300 '0' ++ ['1'], Text.isDecimalDigit c = true := by
    intro c hc
    rcases List.mem_append.1 hc with hc | hc
    · rw [List.eq_of_mem_replicate hc]
      decide
    · rw [List.mem_singleton.1 hc]
      decide
  have hlong : Numeral.maxDigits < (List.replicate 4300 '0' ++ ['1']).length := by
    rw [List.length_append, List.length_replicate]
    decide
  have hnone := not_exists_parse_startingAt ⟨List.concat_ne_nil _ _, hdigits⟩ hlong
  rw [text_startingAt, ← List.append_assoc, List.append_assoc _ ['1']] at hnone
  exact hnone

end DriftPatch.Diff
