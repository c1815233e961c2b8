import DriftPatch.Yaml.Source
import Mathlib.Data.List.Basic

/-!
# Where a document breaks off

A text that is read as a document breaks off if a character stands in it that may not.
-/

namespace DriftPatch.Yaml.Source

theorem size_ofText (t : Text) (after : Option Fault) :
    (ofText t after).size = (ofText t after).rest.length := by
  unfold ofText
  split
  · rfl
  · rfl

end DriftPatch.Yaml.Source
