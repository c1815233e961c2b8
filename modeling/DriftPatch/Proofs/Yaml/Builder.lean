import DriftPatch.Proofs.Steps
import DriftPatch.Yaml.Document.OfNodes

/-!
# What may be wrong with nodes

Building a document changes its nodes, but little: mappings take in entries of others,
and a key that marks a value proper becomes a text. The scalars stay, and so do all
other kinds (`Builder.IsOf`).

So a value that goes wrong while a document is built does so because of a scalar as it
was written and a kind as it was given, and these are found among the nodes that were
read (`Nodes.MayRaise`).
-/

namespace DriftPatch.Yaml

/-! ## What is wrong with a document -/

namespace Nodes

variable {ns : Nodes}

/-- A node is a mapping. -/
def IsMapping (ns : Nodes) (n : Nat) : Prop :=
  ∃ entries, (ns.node n).content = .mapping entries

/-- **A node is taken for a scalar**: it is one, or it is a mapping, which may hold one as
its value proper. -/
def StandsFor (ns : Nodes) (n : Nat) (w : Written) : Prop :=
  ∃ m, (ns.node m).content = .scalar w ∧ (m = n ∨ ns.IsMapping n)

/-- An entry stands in some mapping. -/
def HasEntry (ns : Nodes) (entry : Nat × Nat) : Prop :=
  ∃ n, entry ∈ (ns.node n).entries

/-- **What may be wrong with the values of nodes.** -/
inductive MayRaise (ns : Nodes) : Fault → Prop where
  /-- A value is of no use, or is not what its place asks for. -/
  | malformed : ns.MayRaise .malformed
  /-- Values proper lead to one another without end. -/
  | endless {entry : Nat × Nat} (within : ns.HasEntry entry)
    (proper : (ns.node entry.1).tag = .value) : ns.MayRaise .tooDeep
  /-- A mapping is marked as a date. -/
  | date {n : Nat} (mapping : ns.IsMapping n) (tag : (ns.node n).tag = .timestamp) :
    ns.MayRaise .notDate
  /-- What is taken for a scalar has no value of its kind. -/
  | scalar {f : Fault} {n : Nat} {w : Written} (stands : ns.StandsFor n w)
    (meaningless : Scalar.value (ns.node n).tag w = .error f) : ns.MayRaise f

theorem node_replace (ns : Nodes) (n m : Nat) (node : Node) :
    (ns.replace n node).node m = if m = n ∧ n < ns.size then node else ns.node m := by
  unfold Nodes.node replace
  by_cases hm : m = n
  · subst hm
    by_cases hlt : m < ns.size <;> simp [hlt]
  · simp [hm, Ne.symm hm]

end Nodes

/-! ## Nodes that come of others -/

section ComesOf

variable {ns : Nodes} {n : Nat} {node : Node} {entries : List (Nat × Nat)} {w : Written}

/-- **A node that has become of one**: it is what it was, but for a kind that is now that of
texts, or for entries that stood in other mappings. -/
structure Node.ComesOf (ns : Nodes) (n : Nat) (node : Node) : Prop where
  /-- It is of the same kind, or has become a text. -/
  tag : node.tag = (ns.node n).tag ∨ node.tag = .str
  /-- It consists of the same, or is still a mapping. -/
  content : node.content = (ns.node n).content
    ∨ ns.IsMapping n ∧ ∃ entries, node.content = .mapping entries
      ∧ ∀ entry ∈ entries, ns.HasEntry entry

namespace Node.ComesOf

theorem refl (ns : Nodes) (n : Nat) : (ns.node n).ComesOf ns n :=
  ⟨Or.inl rfl, Or.inl rfl⟩

theorem scalar (h : node.ComesOf ns n) (hw : node.content = .scalar w) :
    (ns.node n).content = .scalar w := by
  rcases h.content with hsame | ⟨-, entries, hentries, -⟩
  · exact hsame.symm.trans hw
  · cases hentries.symm.trans hw

theorem isMapping (h : node.ComesOf ns n) (hentries : node.content = .mapping entries) :
    ns.IsMapping n := by
  rcases h.content with hsame | ⟨hmapping, -⟩
  · exact ⟨entries, hsame.symm.trans hentries⟩
  · exact hmapping

theorem hasEntry (h : node.ComesOf ns n) : ∀ entry ∈ node.entries, ns.HasEntry entry := by
  intro entry hentry
  rcases h.content with hsame | ⟨-, after, hafter, hall⟩
  · refine ⟨n, ?_⟩
    rwa [Node.entries, hsame] at hentry
  · rw [Node.entries, hafter] at hentry
    exact hall entry hentry

theorem toText (h : node.ComesOf ns n) : { node with tag := .str }.ComesOf ns n :=
  ⟨Or.inr rfl, h.content⟩

theorem withEntries (h : node.ComesOf ns n) (hmapping : ns.IsMapping n)
    (hentries : ∀ entry ∈ entries, ns.HasEntry entry) :
    { node with content := .mapping entries }.ComesOf ns n :=
  ⟨h.tag, Or.inr ⟨hmapping, entries, rfl, hentries⟩⟩

end Node.ComesOf

end ComesOf

namespace Builder

variable {ns : Nodes} {b : Builder} {n : Nat} {entries merged : List (Nat × Nat)}

/-- **A state of building a document** from nodes. -/
def IsOf (ns : Nodes) (b : Builder) : Prop :=
  ∀ n, (b.nodes.node n).ComesOf ns n

/-- What builds a part of a document and gives what has a property. -/
abbrev GivesOf {α : Type} (ns : Nodes) (P : α → Prop) : Builds α → Prop :=
  Gives (IsOf ns) P ns.MayRaise

/-- What builds a part of a document. -/
abbrev BuildsOf {α : Type} (ns : Nodes) : Builds α → Prop :=
  Keeps (IsOf ns) ns.MayRaise

theorem givesOf_node (n : Nat) : GivesOf ns (Node.ComesOf ns n) (node n) :=
  gives_get.bind fun _ hb => gives_pure (hb n)

theorem buildsOf_replace {node : Node} (hnode : node.ComesOf ns n) :
    BuildsOf ns (replace n node) := by
  refine keeps_modify fun b hb m => ?_
  show (Nodes.node (b.nodes.replace n node) m).ComesOf ns m
  rw [Nodes.node_replace]
  split
  · next hm => exact hm.1 ▸ hnode
  · exact hb m

/-! ## Scalars -/

/-- A node that is taken for a scalar now was taken for it from the start. -/
theorem endsIn_scalarContent {fuel : Nat} (hb : b.IsOf ns)
    (hfuel : fuel = 0 → ∃ entry, ns.HasEntry entry ∧ (ns.node entry.1).tag = .value) :
    EndsIn (ns.StandsFor n) ns.MayRaise (scalarContent b.nodes fuel n) := by
  induction fuel generalizing n with
  | zero =>
    obtain ⟨entry, hwithin, hproper⟩ := hfuel rfl
    exact .endless hwithin hproper
  | succ fuel ih =>
    unfold scalarContent
    split
    · next hw => exact ⟨n, (hb n).scalar hw, Or.inl rfl⟩
    · exact .malformed
    · next entries hentries =>
      split
      · next key value hfind =>
        have hentry : (key, value) ∈ (b.nodes.node n).entries := by
          rw [Node.entries, hentries]
          exact List.mem_of_find?_eq_some hfind
        have hproper : (b.nodes.node key).tag = .value := by
          simpa using List.find?_some hfind
        have hkey : (ns.node key).tag = .value := by
          rcases (hb key).tag with hsame | htext
          · exact hsame.symm.trans hproper
          · cases htext.symm.trans hproper
        refine (ih fun _ => ⟨_, (hb n).hasEntry _ hentry, hkey⟩).mono ?_ fun _ => id
        rintro w ⟨m, hm, -⟩
        exact ⟨m, hm, Or.inr ((hb n).isMapping hentries)⟩
      · exact .malformed

/-- A scalar that has no value had none from the start. -/
theorem endsIn_value {node : Node} {w : Written} (hnode : node.ComesOf ns n)
    (hw : ns.StandsFor n w) :
    EndsIn (fun _ => True) ns.MayRaise (Scalar.value node.tag w) := by
  cases hvalue : Scalar.value node.tag w with
  | ok v => trivial
  | error fault =>
    rcases hnode.tag with hsame | htext
    · exact .scalar hw (hsame ▸ hvalue)
    · rw [htext] at hvalue
      cases w <;> cases hvalue

theorem endsIn_atom (hb : b.IsOf ns) (n : Nat) :
    EndsIn (fun _ => True) ns.MayRaise (atom b.nodes n) := by
  unfold atom
  split
  · exact .malformed
  · exact .malformed
  · exact .malformed
  · refine (endsIn_scalarContent hb (absurd · (Nat.succ_ne_zero _))).bind fun w hw => ?_
    split
    · next htag hcontent =>
      have hdate : (ns.node n).tag = .timestamp := by
        rcases (hb n).tag with hsame | htext
        · exact hsame.symm.trans htag
        · cases htext.symm.trans htag
      exact .date ((hb n).isMapping hcontent) hdate
    · exact (endsIn_value (hb n) hw).bind fun _ _ => trivial
    · exact (endsIn_value (hb n) hw).bind fun _ _ => trivial

/-! ## Places -/

theorem buildsOf_build (n : Nat) : BuildsOf ns (build n) := by
  refine gives_get.bind fun b hb => ?_
  split
  · exact keeps_pure _
  · refine (givesOf_node n).bind fun node _ => ?_
    split
    · exact Keeps.bind (keeps_modify fun _ hb => hb) fun _ => keeps_pure _
    · refine gives_get.bind fun b hb => (gives_lift (endsIn_atom hb n)).bind fun a _ => ?_
      exact Keeps.bind (keeps_modify fun _ hb => hb) fun _ => keeps_pure _

theorem buildsOf_buildPair (n : Nat) : BuildsOf ns (buildPair n) := by
  refine (givesOf_node n).bind fun node _ => ?_
  split
  · exact (buildsOf_build _).bind fun _ => (buildsOf_build _).bind fun _ => keeps_pure _
  · exact gives_throw .malformed

theorem buildsOf_buildEntries (done : Table Atom Ref) (entries : List (Nat × Nat)) :
    BuildsOf ns (buildEntries done entries) := by
  induction entries generalizing done with
  | nil => exact keeps_pure _
  | cons entry entries ih =>
    refine (buildsOf_build entry.1).bind fun r => ?_
    cases r with
    | atom a => exact (buildsOf_build entry.2).bind fun _ => ih _
    | part n => exact gives_throw .malformed

/-! ## Merging -/

theorem buildsOf_takeMerge (hn : ns.IsMapping n) :
    BuildsOf ns (takeMerge n) := by
  refine gives_get.bind fun b hb => ?_
  dsimp only
  refine (keeps_forIn _ fun entry _ _ => ?_).bind fun _ => ?_
  · exact .ite ((buildsOf_replace (hb entry.1).toText).bind fun _ => keeps_pure _) (keeps_pure _)
  · split
    · exact keeps_pure _
    · next key source behind hsplit =>
      refine (givesOf_node n).bind fun node hnode => ?_
      refine (buildsOf_replace (hnode.withEntries hn fun entry hentry => ?_)).bind fun _ =>
        keeps_pure _
      refine (hb n).hasEntry entry ?_
      rcases List.mem_append.1 hentry with hbefore | hbehind
      · exact (List.takeWhile_subset _) hbefore
      · exact (List.dropWhile_subset _) (hsplit ▸ List.mem_cons_of_mem _ hbehind)

theorem buildsOf_flattenWithin (fuel : Nat) {merged : List (Nat × Nat)}
    (hmerged : ∀ entry ∈ merged, ns.HasEntry entry) (hn : ns.IsMapping n) :
    BuildsOf ns (flattenWithin fuel merged n) := by
  induction fuel generalizing merged n with
  | zero => exact keeps_pure _
  | succ fuel ih =>
    unfold flattenWithin
    refine (buildsOf_takeMerge hn).bind fun source => ?_
    split
    · refine .ite ?_ (keeps_pure _)
      refine (givesOf_node n).bind fun node hnode => (givesOf_node n).bind fun node' hnode' => ?_
      refine buildsOf_replace (hnode.withEntries hn ?_)
      exact List.forall_mem_append.2 ⟨hmerged, hnode'.hasEntry⟩
    · next source =>
      refine (givesOf_node source).bind fun node hnode => ?_
      split
      · exact gives_throw .malformed
      · next entries hentries =>
        refine (ih (List.forall_mem_nil _) (hnode.isMapping hentries)).bind fun _ => ?_
        refine (givesOf_node source).bind fun node hnode => ih ?_ hn
        exact List.forall_mem_append.2 ⟨hmerged, hnode.hasEntry⟩
      · next items =>
        refine Gives.bind (Gives.mapM (R := fun entries => ∀ entry ∈ entries, ns.HasEntry entry)
          fun item _ => ?_) fun lists hlists => ih ?_ hn
        · refine (givesOf_node item).bind fun node hnode => ?_
          split
          · next entries hentries =>
            refine (ih (List.forall_mem_nil _) (hnode.isMapping hentries)).bind fun _ => ?_
            exact (givesOf_node item).bind fun node hnode => gives_pure hnode.hasEntry
          · exact gives_throw .malformed
        · refine List.forall_mem_append.2 ⟨hmerged, fun entry hentry => ?_⟩
          obtain ⟨entries, hentries, hentry⟩ := List.mem_flatten.1 hentry
          exact hlists entries (List.mem_reverse.1 hentries) entry hentry

theorem buildsOf_flatten (hn : ns.IsMapping n) :
    BuildsOf ns (flatten n) :=
  gives_get.bind fun _ _ => buildsOf_flattenWithin _ (List.forall_mem_nil _) hn

/-! ## Collections -/

theorem buildsOf_buildMapping (hn : ns.IsMapping n) :
    BuildsOf ns (buildMapping n) :=
  (buildsOf_flatten hn).bind fun _ => (givesOf_node n).bind fun _ _ => buildsOf_buildEntries _ _

theorem buildsOf_buildPart (n : Nat) : BuildsOf ns (buildPart n) := by
  refine (givesOf_node n).bind fun node hnode => ?_
  split
  · exact Gives.bind (Gives.mapM fun _ _ => buildsOf_build _) fun _ _ => keeps_pure _
  · exact Gives.bind (Gives.mapM fun _ _ => buildsOf_buildPair _) fun _ _ => keeps_pure _
  · next hentries =>
    exact (buildsOf_buildMapping (hnode.isMapping hentries)).bind fun _ => keeps_pure _
  · next hentries =>
    exact (buildsOf_buildMapping (hnode.isMapping hentries)).bind fun _ => keeps_pure _
  · exact gives_throw .malformed

theorem buildsOf_fill (fuel next : Nat) : BuildsOf ns (fill fuel next) := by
  induction fuel generalizing next with
  | zero => exact keeps_pure _
  | succ fuel ih =>
    refine gives_get.bind fun b _ => ?_
    split
    · exact keeps_pure _
    · refine (buildsOf_buildPart _).bind fun part => ?_
      exact Keeps.bind (keeps_modify fun _ hb => hb) fun _ => ih _

end Builder

/-- **A document is built of nodes**, or something is wrong with the values of the nodes. -/
theorem Document.endsIn_ofNodes (ns : Nodes) (root : Nat) :
    EndsIn (fun _ => True) ns.MayRaise (ofNodes ns root) := by
  refine EndsIn.bind (Builder.buildsOf_build root _ ?_) fun r hr => ?_
  · exact Node.ComesOf.refl ns
  · exact (Builder.buildsOf_fill _ 0 r.2 hr.2).bind fun _ _ => trivial

/-- A year has no thirteenth month, so a scalar that names one has no value as a date. -/
example : Document.ofNodes
    #[{ tag := .timestamp, content := .scalar (.text "2024-13-45".toList) }] 0
      = .error .badValue := rfl

end DriftPatch.Yaml
