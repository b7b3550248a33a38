/-
# `OpShape.Files.Basic` — files, and how one is replaced as a whole.

What can be done to files is given by operations in a monad, each of which succeeds or says why not.
A file is replaced by writing a draft beside it and giving the draft its name, so that there is
never a file of that name with only a part of the new contents.
-/

namespace OpShape

/-- What can be done to files, which are named by their paths. -/
structure FileOps (m : Type → Type) where
  read : String → m (Except String ByteArray)
  /-- Put a text into a file, which may be new. -/
  write : String → String → m (Except String Unit)
  /-- Give a file another path, in the place of a file that has it already. -/
  rename : String → String → m (Except String Unit)
  remove : String → m (Except String Unit)

/-- The path of a file in a directory.  A name that starts at the root is a path by itself. -/
def joinPath (dir name : String) : String :=
  if name.startsWith "/" || dir.isEmpty then name
  else if dir.endsWith "/" then dir ++ name
  else dir ++ "/" ++ name

/-- The path of the draft of a file. -/
def draftPath (dir name : String) : String :=
  joinPath dir ("." ++ name ++ ".tmp")

namespace FileOps

variable {m : Type → Type} [Monad m]

/-- Write a draft and give it a path, unless the draft could not be written. -/
def writeDraft (files : FileOps m) (draft path contents : String) : m (Except String Unit) := do
  match ← files.write draft contents with
  | .ok () => files.rename draft path
  | .error cause => pure (.error cause)

/-- Replace the file of a name in a directory as a whole.  If that fails, the draft is removed. -/
def writeAtomic (files : FileOps m) (dir name contents : String) : m (Except String String) := do
  let path := joinPath dir name
  let draft := draftPath dir name
  match ← files.writeDraft draft path contents with
  | .ok () => pure (.ok path)
  | .error cause =>
    let _ ← files.remove draft
    pure (.error cause)

end FileOps

end OpShape
