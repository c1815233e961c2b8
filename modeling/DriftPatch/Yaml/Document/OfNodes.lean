import DriftPatch.Yaml.Loader
import DriftPatch.Yaml.Node.Reader
import DriftPatch.Yaml.Scalar
import DriftPatch.Yaml.Source

/-!
# From nodes to a document

A scalar becomes a value at once. A collection is only announced, and
filled when its turn comes, first announced first; so a node may lie
within itself, and of several mistakes the first one in that order is
reported.

A mapping is flattened before it is filled: it takes in the entries of
the mappings that its merging keys name, in front of its own. Of several
entries under one key the last one stays. Flattening changes the nodes,
and so do the keys of values proper that it passes: they are texts from
then on.

The reading of nodes and the building of a document of them are the loader of
the library (`Document.loader`). A document may as well come from another
one: what is known of a loader is said in `Loader`.
-/

namespace DriftPatch.Yaml

/-- **The state of building a document.** -/
structure Builder where
  /-- The nodes. -/
  nodes : Nodes
  /-- What has been made of each node. -/
  refs : Array (Option Ref)
  /-- The collections. -/
  parts : Array Part
  /-- The nodes of the collections announced, in order. -/
  announced : Array Nat := #[]
  /-- The number of merging keys, as it was at the start. -/
  merges : Nat

/-- What builds part of a document. -/
abbrev Builds := StateT Builder (Except Fault)

namespace Builder

/-- The node with a number. -/
def node (n : Nat) : Builds Node := do
  return (← get).nodes.node n

/-- Puts another node in the place of one. -/
def replace (n : Nat) (node : Node) : Builds Unit :=
  modify fun b => { b with nodes := b.nodes.replace n node }

/-! ## Scalars -/

/-- What was written for a scalar. A mapping stands for the scalar that it holds as
its value proper, however long the way is from one to the next. A way that is longer
than there are nodes has no end. -/
def scalarContent (ns : Nodes) : Nat → Nat → Except Fault Written
  | 0, _ => .error .tooDeep
  | fuel + 1, n =>
    match (ns.node n).content with
    | .scalar w => .ok w
    | .sequence _ => .error .malformed
    | .mapping entries =>
      match entries.find? fun (key, _) => (ns.node key).tag == .value with
      | some (_, value) => scalarContent ns fuel value
      | none => .error .malformed

/-- The value of the scalar that a node stands for. A date has to be a
scalar itself. -/
def atom (ns : Nodes) (n : Nat) : Except Fault Atom := do
  match (ns.node n).tag, (ns.node n).content with
  | .merge, _ | .value, _ | .unknown, _ => .error .malformed
  | tag, content =>
    let w ← scalarContent ns (ns.size + 1) n
    match tag, content with
    | .timestamp, .mapping _ => .error .notDate
    | .float, _ =>
      let value ← Scalar.value tag w
      return { value, source := if Scalar.isNotANumberWord w.face then none else some n }
    | _, _ => return { value := ← Scalar.value tag w, source := some n }

/-! ## Places -/

/-- What a node is: a value, or a collection that is announced now unless
it has been before. -/
def build (n : Nat) : Builds Ref := do
  match (← get).refs.getD n none with
  | some r => return r
  | none =>
    if (← node n).tag.isCollection then
      modify fun b =>
        { b with refs := b.refs.setIfInBounds n (some (.part n)), announced := b.announced.push n }
      return .part n
    else
      let r := Ref.atom (← atom (← get).nodes n)
      modify fun b => { b with refs := b.refs.setIfInBounds n (some r) }
      return r

/-- The pair that a mapping with one entry stands for. -/
def buildPair (n : Nat) : Builds (Ref × Ref) := do
  match (← node n).content with
  | .mapping [(key, value)] => return (← build key, ← build value)
  | _ => throw .malformed

/-- Entries put into a mapping, one after another. A collection is no
key. -/
def buildEntries (done : Table Atom Ref) : List (Nat × Nat) → Builds (Table Atom Ref)
  | [] => return done
  | (key, value) :: rest => do
    match ← build key with
    | .atom a => buildEntries (done.put a (← build value)) rest
    | .part _ => throw .malformed

/-! ## Merging -/

/-- Takes the first merging entry out of a mapping and gives its value.
The keys of values proper before it become texts. -/
def takeMerge (n : Nat) : Builds (Option Nat) := do
  let nodes := (← get).nodes
  let entries := (nodes.node n).entries
  let isOther (entry : Nat × Nat) : Bool := (nodes.node entry.1).tag != .merge
  let before := entries.takeWhile isOther
  for (key, _) in before do
    if (nodes.node key).tag = .value then replace key { nodes.node key with tag := .str }
  match entries.dropWhile isOther with
  | [] => return none
  | (_, source) :: behind =>
    replace n { ← node n with content := .mapping (before ++ behind) }
    return some source

/-- Takes all merging entries out of a mapping, and puts the entries that
they bring in front, after those merged before: the entries of a mapping,
or those of a list of mappings, the last one first. Each mapping is
flattened itself. -/
def flattenWithin : Nat → (merged : List (Nat × Nat)) → Nat → Builds Unit
  | 0, _, _ => return
  | fuel + 1, merged, n => do
    match ← takeMerge n with
    | none =>
      if merged ≠ [] then
        replace n { ← node n with content := .mapping (merged ++ (← node n).entries) }
    | some source =>
      match (← node source).content with
      | .scalar _ => throw .malformed
      | .mapping _ =>
        flattenWithin fuel [] source
        flattenWithin fuel (merged ++ (← node source).entries) n
      | .sequence items =>
        let lists ← items.mapM fun item => do
          match (← node item).content with
          | .mapping _ =>
            flattenWithin fuel [] item
            return (← node item).entries
          | _ => throw .malformed
        flattenWithin fuel (merged ++ lists.reverse.flatten) n

/-- Flattens a mapping. Each step takes a merging key away. -/
def flatten (n : Nat) : Builds Unit := do
  flattenWithin ((← get).merges + 1) [] n

/-! ## Collections -/

/-- The entries of a mapping with all that is merged into it. -/
def buildMapping (n : Nat) : Builds (Table Atom Ref) := do
  flatten n
  buildEntries [] (← node n).entries

/-- The collection that a node stands for, which has to be of the form of
its kind. -/
def buildPart (n : Nat) : Builds Part := do
  let node ← node n
  match node.tag, node.content with
  | .seq, .sequence items => return .list (← items.mapM build)
  | .pairs, .sequence items => return .pairs (← items.mapM buildPair)
  | .map, .mapping _ => return .mapping (← buildMapping n)
  | .set, .mapping _ => return .set ((← buildMapping n).map (·.1))
  | _, _ => throw .malformed

/-- Fills the collections announced, from a given one on. Each node is
announced once at most. -/
def fill : Nat → Nat → Builds Unit
  | 0, _ => return
  | fuel + 1, next => do
    match (← get).announced[next]? with
    | none => return
    | some n =>
      let part ← buildPart n
      modify fun b => { b with parts := b.parts.setIfInBounds n part }
      fill fuel (next + 1)

end Builder

namespace Document

/-- The number of merging keys of mappings. -/
def mergeCount (ns : Nodes) : Nat :=
  ns.foldl (fun count node =>
    count + node.entries.countP fun (key, _) => (ns.node key).tag == .merge) 0

/-- **The document that a node stands for.** -/
def ofNodes (ns : Nodes) (root : Nat) : Except Fault Document := do
  let b : Builder :=
    { nodes := ns, refs := Array.replicate ns.size none
      parts := Array.replicate ns.size default, merges := mergeCount ns }
  let (r, b) ← (Builder.build root).run b
  let (_, b) ← (Builder.fill (ns.size + 1) 0).run b
  return { parts := b.parts, root := r }

/-- The document without anything in it. -/
def empty : Document :=
  { parts := #[], root := .atom { value := .null, source := none } }

/-- **The document at a cursor.** A text without one holds nothing. -/
def ofCursor (c : Cursor) : Except Fault Document := do
  match ← Nodes.ofCursor c with
  | (_, none) => return empty
  | (ns, some root) => ofNodes ns root

/-- **The loader of the library.** It looks at the first two blocks of a text
before it answers. -/
def loader : Loader Fault where
  blockSize := Source.blockSize
  blockSize_pos := by decide
  ofText t := ofCursor (Source.ofText t none)
  ofFront t :=
    if t.length < 2 * Source.blockSize then none
    else
      match ofCursor (Source.ofText t (some .undecodable)) with
      | .error .undecodable => none
      | answer => some answer
  isMalformed fault := fault == .malformed

end Document

end DriftPatch.Yaml
