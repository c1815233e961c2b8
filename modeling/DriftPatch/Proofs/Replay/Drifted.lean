import DriftPatch.Proofs.Replay.Generated

/-!
# Generated hunks replay on a text that has drifted

A diff is made for one text and applied to another one. The two have equally
many lines, and line by line they differ in the blanks at the ends only; behind
these lines the second text may go on. No header is wrong then, and lines are
looked for without the blanks at their ends, so every hunk finds its lines where
it says. This includes the last hunk, which was made for the end of a text and
now stands in the midst of one: it may remove lines, add lines, or both.

What is made is the new text, but for blanks, and whatever followed the old one
follows it (`Diff.applyHunks_generate_drifted`). The lines kept are those of the
drifted text with the blanks they have there.
-/

namespace DriftPatch.Diff

/-- **The generated diff turns a drifted old text into a drifted new one**, and
every hunk is placed by its position. The lines that follow stay as they are. -/
theorem applyHunks_generate_drifted (settings : Settings) (excerpt : Excerpt)
    (old new path : Text) {drifted : Text} {tail : List Line}
    (hdrift : List.Forall₂ (fun a b => a.strip = b.strip) drifted.lines old.lines)
    (htail : ∀ l ∈ tail, '\n' ∉ l) :
    ∃ made, List.Forall₂ (fun a b => a.strip = b.strip) made new.lines
      ∧ applyHunks excerpt (Text.ofLines (drifted.lines ++ tail))
          (generate settings old new path).hunks
        = { content := Text.ofLines (made ++ tail)
            strategies := List.replicate (generate settings old new path).hunks.length
              .positional }
      ∧ (Text.ofLines (made ++ tail)).lines = made ++ tail := by
  have hsame : List.Forall₂ Hunk.Alike (generate settings old new path).hunks
      (generate settings old new path).hunks :=
    List.forall₂_same.2 fun h _ => Hunk.Alike.refl h
  obtain ⟨kept, left, hnew, hkept, hsub, hrewrites⟩ :=
    rewrites_between_drifted _ (fun _ _ h => h) tail [] 0 hdrift hsame
  have hadded := feed_notMem_of_mem_addedLines_generate settings old new path
  have hdrifted : ∀ l ∈ drifted.lines, '\n' ∉ l := fun _ hl => Text.feed_notMem_of_mem_lines hl
  have hmade : List.Forall₂ (fun a b => a.strip = b.strip)
      (left ++ addedLines (generate settings old new path).hunks) new.lines := by
    rw [hnew]
    exact List.rel_append hkept (List.forall₂_same.2 fun _ _ => rfl)
  refine ⟨_, hmade, ?_, ?_⟩
  · have hlines : (Text.ofLines (drifted.lines ++ tail)).lines = drifted.lines ++ tail :=
      Text.lines_ofLines (List.append_ne_nil_of_left_ne_nil (Text.lines_ne_nil drifted) tail)
        (List.forall_mem_append.2 ⟨hdrifted, htail⟩)
    refine applyHunks_of_rewrites excerpt ?_ (feed_notMem_of_addedLines hadded)
    rw [hlines]
    exact hrewrites
  · have hne : left ++ addedLines (generate settings old new path).hunks ≠ [] := by
      intro hnil
      rw [hnil] at hmade
      exact Text.lines_ne_nil new (List.forall₂_nil_left_iff.1 hmade)
    refine Text.lines_ofLines (List.append_ne_nil_of_left_ne_nil hne tail) ?_
    rw [List.forall_mem_append, List.forall_mem_append]
    exact ⟨⟨fun l hl => hdrifted l (hsub.subset hl), hadded⟩, htail⟩

/-- A line is removed, and one is put behind the last. In the drifted text this
is in front of two others. -/
theorem applyHunks_generate_drifted_twoHunks :
    List.Forall₂ (fun a b : Line => a.strip = b.strip) (Text.lines "\ta\nb \n c\r".toList)
        (Text.lines "a\n b\nc".toList)
      ∧ (∀ l ∈ ["t".toList, []], '\n' ∉ l)
      ∧ applyHunks {} "\ta\nb \n c\r\nt\n".toList
          (generate {} "a\n b\nc".toList "a\nc\nd".toList "f".toList).hunks
        = { content := "\ta\n c\r\nd\nt\n".toList, strategies := [.positional, .positional] }
      ∧ ∃ made, List.Forall₂ (fun a b : Line => a.strip = b.strip) made
          (Text.lines "a\nc\nd".toList)
        ∧ applyHunks {} (Text.ofLines (Text.lines "\ta\nb \n c\r".toList ++ ["t".toList, []]))
            (generate {} "a\n b\nc".toList "a\nc\nd".toList "f".toList).hunks
          = { content := Text.ofLines (made ++ ["t".toList, []])
              strategies := List.replicate
                (generate {} "a\n b\nc".toList "a\nc\nd".toList "f".toList).hunks.length
                .positional }
        ∧ (Text.ofLines (made ++ ["t".toList, []])).lines = made ++ ["t".toList, []] := by
  have hdrift : List.Forall₂ (fun a b : Line => a.strip = b.strip)
      (Text.lines "\ta\nb \n c\r".toList) (Text.lines "a\n b\nc".toList) :=
    .cons (by decide) (.cons (by decide) (.cons (by decide) .nil))
  have htail : ∀ l ∈ ["t".toList, []], '\n' ∉ l := by decide
  exact ⟨hdrift, htail, by decide +kernel, applyHunks_generate_drifted {} {} _ _ _ hdrift htail⟩

end DriftPatch.Diff
