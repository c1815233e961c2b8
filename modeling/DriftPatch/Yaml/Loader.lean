import DriftPatch.Text.File
import DriftPatch.Yaml.Document.Basic

/-!
# Loaders

What is made of a document is up to a **loader**, which is a program of its
own with errors of its own. It is handed a file, asks it for one block of
characters after another, and gives the document in it or raises an error.
Here it is known by its answers alone: to a text that it is given to the end
(`Loader.ofText`), and to the blocks of a text before it asks for the next
one (`Loader.ofFront`).

Whoever asks a file for a block that is no text is stopped by the file. So a
file that is no UTF-8 is read as far as the loader asks, and what becomes of
it depends on whether the loader answers before it comes to the broken block
(`Loader.load`). A loader that wants to see the whole of a text before it
gives the document in it is **thorough** (`Loader.IsThorough`).
-/

namespace DriftPatch.Yaml

/-- **A loader** that raises errors of a type. -/
structure Loader (ε : Type) where
  /-- How many characters it asks for at a time. -/
  blockSize : Nat
  /-- It asks for some. -/
  blockSize_pos : 0 < blockSize
  /-- The document in a text, or the error that is raised over the text. -/
  ofText : Text → Except ε Document
  /-- What it answers when it has been given some blocks and none behind
  them; nothing if it asks for the next one. -/
  ofFront : Text → Option (Except ε Document)
  /-- Whether an error says that the text is malformed. -/
  isMalformed : ε → Bool

namespace Loader

variable {ε : Type}

/-- **Why a loader gives no document** of a file. -/
inductive Stop (ε : Type) where
  /-- The file is no text where the loader asks for more of it. -/
  | undecodable
  /-- The loader raises an error. -/
  | raised (e : ε)
  deriving DecidableEq, Repr

/-- **What a loader makes of a file**, given by its bytes. -/
def load (loader : Loader ε) (bytes : ByteArray) : Except (Stop ε) Document :=
  match Text.ofFile? bytes with
  | some t => (loader.ofText t).mapError .raised
  | none =>
    match loader.ofFront (Text.frontOf loader.blockSize bytes) with
    | some answer => answer.mapError .raised
    | none => .error .undecodable

end Loader

end DriftPatch.Yaml
