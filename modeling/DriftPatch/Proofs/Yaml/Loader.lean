import DriftPatch.Proofs.Text.File
import DriftPatch.Proofs.Yaml.Builder
import DriftPatch.Proofs.Yaml.Reader
import DriftPatch.Proofs.Yaml.Source

/-!
# What loaders give

To a loader a file is its text, if it is UTF-8, and otherwise what can be read of it
(`Loader.load_of_text`, `Loader.load_eq_undecodable_iff`). So of a file that is no UTF-8 a loader
that is thorough gives no document (`Loader.IsThorough.load_ne_ok`).

The loader of the library is thorough (`Document.isThorough_loader`): it looks at the end of
a text before it gives the document, and breaks off where the text does. The errors that it
raises have their cause in the text or in the nodes that are read of it
(`Document.endsIn_ofCursor`).
-/

namespace DriftPatch.Yaml

namespace Loader

variable {ε : Type} {loader : Loader ε} {bytes : ByteArray} {t : Text} {d : Document}

theorem load_of_text (loader : Loader ε) (h : Text.ofFile? bytes = some t) :
    loader.load bytes = (loader.ofText t).mapError .raised := by
  unfold load
  rw [h]

theorem load_of_answer {answer : Except ε Document} (h : ¬bytes.IsValidUTF8)
    (hfront : loader.ofFront (Text.frontOf loader.blockSize bytes) = some answer) :
    loader.load bytes = answer.mapError .raised := by
  unfold load
  rw [Text.ofFile?_eq_none h]
  dsimp only
  rw [hfront]

theorem load_of_asks (h : ¬bytes.IsValidUTF8)
    (hfront : loader.ofFront (Text.frontOf loader.blockSize bytes) = none) :
    loader.load bytes = .error .undecodable := by
  unfold load
  rw [Text.ofFile?_eq_none h]
  dsimp only
  rw [hfront]

/-- **A loader is stopped by a file** that is no UTF-8 if it asks for more than can be read of
it. -/
theorem load_eq_undecodable_iff :
    loader.load bytes = .error .undecodable
      ↔ ¬bytes.IsValidUTF8 ∧ loader.ofFront (Text.frontOf loader.blockSize bytes) = none := by
  by_cases hvalid : bytes.IsValidUTF8
  · obtain ⟨t, ht⟩ := Option.ne_none_iff_exists'.1
      fun hnone => Text.ofFile?_eq_none_iff.1 hnone hvalid
    refine iff_of_false (fun h => ?_) fun h => h.1 hvalid
    rw [load_of_text loader ht, mapError_eq_error_iff] at h
    obtain ⟨e, -, he⟩ := h
    cases he
  · cases hfront : loader.ofFront (Text.frontOf loader.blockSize bytes) with
    | none => exact iff_of_true (load_of_asks hvalid hfront) ⟨hvalid, rfl⟩
    | some answer =>
      rw [load_of_answer hvalid hfront, mapError_eq_error_iff]
      exact iff_of_false (fun ⟨_, _, he⟩ => nomatch he) nofun

end Loader

/-! ## The loader of the library -/

namespace Document

variable {c : Cursor} {t : Text}

/-- **No document is given of a text that breaks off**, and where none is given something is
wrong with the text or with the nodes that are read of it. -/
theorem endsIn_ofCursor (hsize : c.rest.length ≤ c.size) :
    EndsIn (fun _ => c.after = none)
      (fun f => c.MayRaise f ∨ ∃ ns root, Nodes.ofCursor c = .ok (ns, some root) ∧ ns.MayRaise f)
      (ofCursor c) := by
  unfold ofCursor
  cases hnodes : Nodes.ofCursor c with
  | error f => exact Or.inl ((Nodes.endsIn_ofCursor hsize).of_error hnodes)
  | ok p =>
    obtain ⟨ns, root⟩ := p
    have hafter : c.after = none := (Nodes.endsIn_ofCursor hsize).of_ok hnodes
    cases root with
    | none => exact hafter
    | some root =>
      exact (endsIn_ofNodes ns root).mono (fun _ _ => hafter) fun f hf => Or.inr ⟨ns, root, rfl, hf⟩

/-- **The loader of the library is stopped** by a file that is no UTF-8 and no larger than the
two blocks that it looks at before it answers. -/
theorem load_of_small {bytes : ByteArray} (h : ¬bytes.IsValidUTF8)
    (hsmall : bytes.size ≤ Text.pieceSize) : loader.load bytes = .error .undecodable := by
  have hfront := Text.length_frontOf_lt loader.blockSize_pos h hsmall
  exact Loader.load_eq_undecodable_iff.2 ⟨h, if_pos hfront⟩

/-- What may be wrong with a text to the loader of the library. -/
theorem mayRaise_of_ofText {f : Fault} (h : loader.ofText t = .error f) :
    (Source.ofText t none).MayRaise f
      ∨ ∃ ns root, Nodes.ofCursor (Source.ofText t none) = .ok (ns, some root)
        ∧ ns.MayRaise f :=
  (endsIn_ofCursor (Nat.le_of_eq (Source.size_ofText t none).symm)).of_error h

end Document

end DriftPatch.Yaml
