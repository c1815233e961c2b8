import DriftPatch.Text.Halves
import DriftPatch.Yaml.Cursor

/-!
# Tokens of a document

The layout of a document becomes tokens of its own: the start and the end
of an indented collection, the start of a key that nothing but the colon
after it shows to be one.
-/

namespace DriftPatch.Yaml

/-- **A token of a document.** -/
inductive Token where
  /-- The end of the text. -/
  | streamEnd
  /-- A directive that names the version of the language. -/
  | versionDirective (major : Nat)
  /-- A directive that gives a shorthand for the start of tags. -/
  | tagDirective (handle start : Text)
  /-- Any other directive. -/
  | otherDirective
  /-- Three dashes. -/
  | documentStart
  /-- Three dots. -/
  | documentEnd
  /-- The start of an indented list. -/
  | blockSequenceStart
  /-- The start of an indented mapping. -/
  | blockMappingStart
  /-- The end of an indented collection. -/
  | blockEnd
  /-- An opening bracket. -/
  | flowSequenceStart
  /-- A closing bracket. -/
  | flowSequenceEnd
  /-- An opening brace. -/
  | flowMappingStart
  /-- A closing brace. -/
  | flowMappingEnd
  /-- The dash of an item. -/
  | blockEntry
  /-- A comma. -/
  | flowEntry
  /-- The start of a key. -/
  | key
  /-- The start of a value. -/
  | value
  /-- A reference to an earlier node. -/
  | alias (name : Text)
  /-- A name for the node that follows. -/
  | anchor (name : Text)
  /-- A tag, with or without a shorthand in front. -/
  | tag (handle : Option Text) (suffix : Text)
  /-- A scalar, plain or within quotes or indented as a block. -/
  | scalar (content : Written) (plain : Bool)
  deriving DecidableEq, Repr

end DriftPatch.Yaml
