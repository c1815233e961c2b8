import DriftPatch.Settings.OfValue
import DriftPatch.Yaml.Document.OfNodes

/-!
# Settings from a file

A configuration file is UTF-8 text in any style of line endings and holds
one YAML document. A document that says nothing stands for an empty
mapping; any other has to be a mapping. Without a file the settings are
the defaults.

Which document a file holds is for a loader to say, and what can go wrong
there is up to it. Settings are read with any loader (`Settings.load`), and
in particular with that of the library (`Settings.ofFile`).

Of a document only what settings are read from is looked at. Each value
is looked at from its own place, so that a cycle in it shows where that
value is met again.
-/

namespace DriftPatch.Settings

open Yaml (Document Loader Ref)

/-- The languages at a place of a document: each tag is looked at from its
own place. Of a collection that is no mapping nothing more is seen. -/
def languagesAt (d : Document) : Ref → Value
  | .atom a => a.value
  | .part n =>
    match d.part n with
    | .mapping entries => .mapping (entries.map fun (key, r) => (key.value, d.view r))
    | _ => .list []

/-- What a document holds under a text. -/
def member? (entries : Table Yaml.Atom Ref) (key : Text) : Option Ref :=
  (entries.find? fun (k, _) => k.value == .text key).map (·.2)

/-- The value of a setting in the entries of a document. -/
def settingIn? (d : Document) (entries : Table Yaml.Atom Ref) (name : Text) : Option Value :=
  (member? entries name).map (if name = languagesName then languagesAt d else d.view)

/-- The settings in the entries of a document: in its section, if it has
one, or else its own. -/
def ofMembers (d : Document) (entries : Table Yaml.Atom Ref) : Except Fault Settings :=
  match member? entries sectionName with
  | none => ofSection (settingIn? d entries)
  | some (.atom { value := .null, .. }) => .ok standard
  | some r =>
    match d.entries? r with
    | some found => ofSection (settingIn? d found)
    | none => .error (.refused .sectionNotMapping)

/-- The settings in a document. -/
def ofDocument (d : Document) : Except Fault Settings :=
  if d.isVoid d.root then .ok standard
  else
    match d.entries? d.root with
    | some entries => ofMembers d entries
    | none => .error (.refused .notMapping)

/-- **The settings in a file**, given by its bytes, if there is one, read by a
loader. Of the errors of the loader only one that says that the document is
malformed is turned into a refusal; another one is left as it is. -/
def load {ε : Type} (loader : Loader ε) (bytes : Option ByteArray) :
    Except (Fault ⊕ ε) Settings :=
  match bytes with
  | none => .ok standard
  | some bytes =>
    match loader.load bytes with
    | .ok d => (ofDocument d).mapError .inl
    | .error .undecodable => .error (.inl (.unreadable .undecodable))
    | .error (.raised e) =>
      if loader.isMalformed e then .error (.inl (.refused .malformed)) else .error (.inr e)

/-- **The settings in a file**, read by the loader of the library. -/
def ofFile (bytes : Option ByteArray) : Except Fault Settings :=
  (load Document.loader bytes).mapError (Sum.elim id .unreadable)

end DriftPatch.Settings
