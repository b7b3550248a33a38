/-
# `OpShape.Publish` — a manifest as a file.

The file is replaced as a whole, and only if there is a manifest: a library that does not pass
leaves every file as it was.
-/
import OpShape.Files.Basic
import OpShape.Generate

namespace OpShape

/-- Make the manifest of a library and write it to a file in a directory. -/
def generateToDir {m : Type → Type} [Monad m] (files : FileOps m) (library : ShapeLibrary)
    (oracle : Oracle) (registry : Registry) (dir name : String) :
    m (Except GenerateError String) := do
  match generate library oracle registry with
  | .error error => pure (.error error)
  | .ok manifest =>
    match ← files.writeAtomic dir name manifest.text with
    | .ok path => pure (.ok path)
    | .error cause => pure (.error (.write (joinPath dir name) cause))

end OpShape
