import DriftPatch.Text.Halves
import DriftPatch.Yaml.Tag

/-!
# Nodes of a document

A document is a graph of **nodes**: scalars, lists and mappings, each
with its kind. A node may be met at several places, also within itself,
since a name given to it at one place refers to it at others. So nodes
are kept in one array, and a place holds the number of its node.
-/

namespace DriftPatch.Yaml

/-- What a node consists of. -/
inductive Node.Content where
  /-- What was written for a scalar. -/
  | scalar (w : Written)
  /-- The items of a list. -/
  | sequence (items : List Nat)
  /-- The entries of a mapping, in order. -/
  | mapping (entries : List (Nat × Nat))
  deriving Repr

/-- **A node of a document.** -/
structure Node where
  /-- Its kind. -/
  tag : Tag
  /-- What it consists of. -/
  content : Node.Content
  deriving Repr

namespace Node

/-- The node of an empty place. -/
def empty : Node :=
  { tag := .null, content := .scalar (.text []) }

instance : Inhabited Node := ⟨empty⟩

/-- The entries of a mapping. -/
def entries (node : Node) : List (Nat × Nat) :=
  match node.content with
  | .mapping entries => entries
  | _ => []

end Node

/-- The nodes of a document, by their numbers. -/
abbrev Nodes := Array Node

namespace Nodes

/-- The node with a number. -/
def node (ns : Nodes) (n : Nat) : Node :=
  ns.getD n .empty

/-- The nodes with another one in the place of one. -/
def replace (ns : Nodes) (n : Nat) (node : Node) : Nodes :=
  ns.setIfInBounds n node

end Nodes

end DriftPatch.Yaml
