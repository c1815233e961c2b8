import DriftPatch.Proofs.Text.Utf8
import DriftPatch.Text.File

/-!
# What can be read of a file

All of a file that is UTF-8 can be read. Of one that is not, what can be read depends on
the pieces that it is read in. A small file is one piece, and all blocks of it that are
read lie in front of its end (`Text.length_frontOf_lt`); so nothing is read of it if one
block is as long as the file (`Text.frontOf_eq_nil`).
-/

namespace DriftPatch.Text

variable {bytes : ByteArray} {t : Text}

theorem ofFile?_eq_none (h : ¬bytes.IsValidUTF8) : ofFile? bytes = none := by
  unfold ofFile? String.fromUTF8?
  rw [dif_neg h]
  rfl

theorem ofFile?_eq_none_iff : ofFile? bytes = none ↔ ¬bytes.IsValidUTF8 := by
  refine ⟨fun h hvalid => ?_, ofFile?_eq_none⟩
  unfold ofFile? String.fromUTF8? at h
  rw [dif_pos hvalid] at h
  cases h

theorem length_universalLineEnds_le (t : Text) : (universalLineEnds t).length ≤ t.length := by
  fun_induction universalLineEnds t with
  | case1 rest ih => exact Nat.succ_le_succ (Nat.le_succ_of_le ih)
  | case2 rest _ ih => exact Nat.succ_le_succ ih
  | case3 c rest _ _ ih => exact Nat.succ_le_succ ih
  | case4 => exact Nat.le_refl _

namespace Reading

variable {r : Reading} {size : Nat}

/-- Where the characters that are there do not suffice for a block, a piece is read. -/
theorem readable_of_piece {r' : Reading} {fuel block : Nat} (hcount : r.count < (block + 1) * size)
    (hpiece : r.readPiece ((block + 1) * size - r.count) = some r') :
    readable size (fuel + 1) block r = readable size fuel block r' := by
  rw [readable, if_neg (Nat.not_le.2 hcount), hpiece]

/-- If that is no text, the blocks before it are all that is read. -/
theorem readable_of_broken {fuel block : Nat} (hcount : r.count < (block + 1) * size)
    (hpiece : r.readPiece ((block + 1) * size - r.count) = none) :
    readable size (fuel + 1) block r = (universalLineEnds r.text).take (block * size) := by
  rw [readable, if_neg (Nat.not_le.2 hcount), hpiece]

/-- **A file that is over within a character.** -/
structure EndsWithin (r : Reading) : Prop where
  /-- All bytes have been read. -/
  bytes : r.bytes = []
  /-- The last ones are the start of a character. -/
  unfinished : Utf8.front r.unfinished = .unfinished
  /-- There are such. -/
  nonempty : r.unfinished ≠ []

theorem EndsWithin.readPiece_eq_none (h : r.EndsWithin) (missing : Nat) :
    r.readPiece missing = none := by
  have hdecode : Utf8.decode (r.unfinished ++ []) = some ([], r.unfinished) := by
    rw [List.append_nil]
    exact Utf8.decode_of_unfinished h.unfinished
  unfold readPiece
  simp only [h.bytes, List.take_nil, hdecode]
  simp [h.nonempty]

/-- Of a file that is over within a character no more than its text is read. -/
theorem EndsWithin.length_readable_le (h : r.EndsWithin) (fuel block : Nat) :
    (readable size fuel block r).length ≤ r.text.length := by
  induction fuel generalizing block with
  | zero => exact length_universalLineEnds_le _
  | succ fuel ih =>
    by_cases hcount : r.count < (block + 1) * size
    · rw [readable_of_broken hcount (h.readPiece_eq_none _)]
      exact Nat.le_trans (List.length_take_le' _ _) (length_universalLineEnds_le _)
    · rw [readable, if_pos (Nat.not_lt.1 hcount)]
      exact ih _

/-- A small file is one piece, and no UTF-8 is over within a character if anything of it is
read. -/
theorem endsWithin_of_readPiece {l : List UInt8} {missing : Nat} (hlength : l.length ≤ pieceSize)
    (hbroken : ∀ t, Utf8.decode l ≠ some (t, [])) (h : readPiece { bytes := l } missing = some r) :
    r.EndsWithin ∧ r.text.length < l.length := by
  have hpiece : l.take (nextPiece { bytes := l } missing) = l :=
    List.take_of_length_le (Nat.le_trans hlength (Nat.le_max_left _ _))
  unfold readPiece at h
  simp only [hpiece, List.nil_append] at h
  cases hdecode : Utf8.decode l with
  | none =>
    rw [hdecode] at h
    cases h
  | some p =>
    obtain ⟨t, unfinished⟩ := p
    have hread := Utf8.isRead_of_decode hdecode
    have hnonempty : unfinished ≠ [] := by
      rintro rfl
      exact hbroken t hdecode
    simp only [hdecode, Option.bind_eq_bind, Option.bind_some] at h
    split at h
    · cases h
    · cases h
      refine ⟨⟨List.drop_length, hread.unfinished, hnonempty⟩, ?_⟩
      have hle := hread.length_le
      have hpos := List.length_pos_iff.2 hnonempty
      show t.length < l.length
      omega

end Reading

/-! ## Small files -/

variable {size : Nat}

/-- **Of a small file that is no UTF-8** nothing is read, or it is one piece that is over within
a character. -/
theorem frontOf_of_small (hpos : 0 < size) (h : ¬bytes.IsValidUTF8)
    (hsmall : bytes.size ≤ pieceSize) :
    frontOf size bytes = []
      ∨ ∃ r : Reading, r.EndsWithin ∧ r.text.length < bytes.size
        ∧ ∃ fuel, frontOf size bytes = Reading.readable size (fuel + 1) 0 r := by
  have hbroken (t : Text) : Utf8.decode bytes.toList ≠ some (t, []) :=
    fun hdecode => h (Utf8.isValidUTF8_of_decode hdecode)
  have hlength : bytes.toList.length = bytes.size := by
    rw [Utf8.toList_eq]
    rfl
  have hcount : Reading.count { bytes := bytes.toList } < (0 + 1) * size := by
    rw [Nat.zero_add, Nat.one_mul]
    exact hpos
  cases hpiece : Reading.readPiece { bytes := bytes.toList } ((0 + 1) * size - 0) with
  | none =>
    refine Or.inl ((Reading.readable_of_broken hcount hpiece).trans ?_)
    rw [Nat.zero_mul, List.take_zero]
  | some r =>
    obtain ⟨hends, hshort⟩ := Reading.endsWithin_of_readPiece (hlength ▸ hsmall) hbroken hpiece
    exact Or.inr ⟨r, hends, hlength ▸ hshort, _, Reading.readable_of_piece hcount hpiece⟩

/-- **What can be read of a small file is shorter than a piece.** -/
theorem length_frontOf_lt (hpos : 0 < size) (h : ¬bytes.IsValidUTF8)
    (hsmall : bytes.size ≤ pieceSize) : (frontOf size bytes).length < pieceSize := by
  rcases frontOf_of_small hpos h hsmall with hnil | ⟨r, hends, hshort, fuel, hfront⟩
  · rw [hnil]
    decide
  · rw [hfront]
    exact Nat.lt_of_le_of_lt (hends.length_readable_le _ _) (Nat.lt_of_lt_of_le hshort hsmall)

end DriftPatch.Text
