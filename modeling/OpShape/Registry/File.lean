/-
# `OpShape.Registry.File` — tables of known operators in files.
-/
import OpShape.Files.Basic
import OpShape.Registry.Basic

namespace OpShape.Registry

/-- Read a table from a file. -/
def load {m : Type → Type} [Monad m] (files : FileOps m) (path : String) :
    m (Except RegistryError Registry) := do
  match ← files.read path with
  | .ok bytes => pure (ofBytes path bytes)
  | .error cause => pure (.error (.unreadable path cause))

end OpShape.Registry
