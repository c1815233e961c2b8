import DriftPatch.Text.LowerCase

/-!
# Languages of files

The **language** of a file is the tag under which an editor highlights
it. It is told by the extension of the file's name alone, case aside: a
table chosen by the user is asked first, then the built-in one. A name
without a dot, and an extension that no table knows, mean plain text.
-/

namespace DriftPatch

namespace Language

/-- The tag of a file that is in no known language. -/
def plainText : Text := "plaintext".toList

/-- The built-in table, from extensions to tags. -/
def byExtension : List (Text × Text) :=
  [("ts", "typescript"), ("tsx", "typescript"), ("js", "javascript"),
   ("jsx", "javascript"), ("py", "python"), ("rs", "rust"), ("go", "go"),
   ("java", "java"), ("cpp", "cpp"), ("c", "c"), ("css", "css"),
   ("scss", "scss"), ("html", "html"), ("json", "json"), ("md", "markdown"),
   ("yaml", "yaml")].map fun (extension, tag) => (extension.toList, tag.toList)

/-- The extension of a path, in lower case: what follows the last dot of
its last component. -/
def extension? (path : Text) : Option Text :=
  let name := path.afterLast '/'
  if '.' ∈ name then some (Text.lower (name.afterLast '.')) else none

/-- **The language of a file**, by its path. The table `chosen` takes
precedence over the built-in one. -/
def detect (chosen : List (Text × Text)) (path : Text) : Text :=
  match extension? path with
  | none => plainText
  | some extension =>
    ((chosen.lookup extension).or (byExtension.lookup extension)).getD plainText

end Language

end DriftPatch
