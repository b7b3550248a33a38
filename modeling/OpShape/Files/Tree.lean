/-
# `OpShape.Files.Tree` — directories and files in memory.

A tree holds files at routes, which are lists of names from the root on.  A path is walked part by
part: each part but the last has to lead to a directory, one dot stays there and two dots go back.
Neither a part nor a whole path may be too long.
-/
import OpShape.Files.Basic
import OpShape.Text.Split

namespace OpShape

/-- The names of directories from the root on, and of what lies in the last of them. -/
abbrev Route := List String

/-- Why a path does not lead to a file, or not to one that can be written. -/
inductive FileFault where
  | notFound
  | notDirectory
  | isDirectory
  | nameTooLong
  | badName
  deriving DecidableEq, Repr

/-- The reason in words. -/
def FileFault.message : FileFault → String
  | notFound => "No such file or directory (os error 2)"
  | notDirectory => "Not a directory (os error 20)"
  | isDirectory => "Is a directory (os error 21)"
  | nameTooLong => "File name too long (os error 36)"
  | badName => "file name contained an unexpected NUL byte"

/-- Directories and files, and the directory where relative paths start. -/
structure Tree where
  directories : List Route
  files : List (Route × ByteArray)
  current : Route

namespace Tree

/-- Is there a directory? -/
def isDirectory (tree : Tree) (route : Route) : Bool :=
  route.isEmpty || tree.directories.contains route

/-- The contents of a file. -/
def contents? (tree : Tree) (route : Route) : Option ByteArray :=
  (tree.files.find? fun file => file.1 = route).map Prod.snd

/-- The names in a directory, in order. -/
def names (tree : Tree) (route : Route) : List String :=
  let routes := tree.directories ++ tree.files.map Prod.fst
  let names := routes.filterMap fun other =>
    if other.dropLast = route then other.getLast? else none
  names.mergeSort fun a b => decide (a ≤ b)

/-! ## Paths -/

/-- The most bytes that a name may have. -/
def nameLimit : Nat := 255

/-- The most bytes that a path may have. -/
def pathLimit : Nat := 4095

/-- Walk one part of a path. -/
def step (tree : Tree) (route : Route) (part : String) : Except FileFault Route :=
  if tree.isDirectory route then
    if part = "" ∨ part = "." then .ok route
    else if part = ".." then .ok route.dropLast
    else if nameLimit < part.utf8ByteSize then .error .nameTooLong
    else .ok (route ++ [part])
  else if (tree.contents? route).isSome then .error .notDirectory
  else .error .notFound

/-- The route that a path leads to.  There need not be anything there. -/
def resolve (tree : Tree) (path : String) : Except FileFault Route :=
  if path.isEmpty then .error .notFound
  else if path.toList.contains '\x00' then .error .badName
  else if pathLimit < path.utf8ByteSize then .error .nameTooLong
  else
    let parts := (Text.pieces '/' path.toList).map String.ofList
    parts.foldlM tree.step (if path.startsWith "/" then [] else tree.current)

/-! ## Operations -/

/-- The contents of the file that a path leads to. -/
def read (tree : Tree) (path : String) : Except FileFault ByteArray := do
  let route ← tree.resolve path
  if tree.isDirectory route then .error .isDirectory
  else
    match tree.contents? route with
    | some contents => .ok contents
    | none => .error .notFound

/-- The tree without the file at a route. -/
def dropFile (tree : Tree) (route : Route) : Tree :=
  { tree with files := tree.files.filter fun file => file.1 ≠ route }

/-- The tree with a file at a route. -/
def putFile (tree : Tree) (route : Route) (contents : ByteArray) : Tree :=
  { tree with files := (route, contents) :: (tree.dropFile route).files }

/-- Put contents into the file that a path leads to. -/
def write (tree : Tree) (path : String) (contents : ByteArray) : Except FileFault Tree := do
  let route ← tree.resolve path
  if tree.isDirectory route then .error .isDirectory
  else .ok (tree.putFile route contents)

/-- Remove the file that a path leads to. -/
def remove (tree : Tree) (path : String) : Except FileFault Tree := do
  let route ← tree.resolve path
  if tree.isDirectory route then .error .isDirectory
  else if (tree.contents? route).isSome then .ok (tree.dropFile route)
  else .error .notFound

/-- Give a file another path. -/
def rename (tree : Tree) (source target : String) : Except FileFault Tree := do
  let contents ← tree.read source
  (← tree.remove source).write target contents

/-- Change the tree, unless the change fails. -/
def change (change : Tree → Except FileFault Tree) : StateM Tree (Except String Unit) := do
  match change (← get) with
  | .ok tree => do
    set tree
    pure (.ok ())
  | .error fault => pure (.error fault.message)

/-- The operations on a tree in memory. -/
def ops : FileOps (StateM Tree) where
  read path := do pure (((← get).read path).mapError FileFault.message)
  write path contents := change fun tree => tree.write path contents.toUTF8
  rename source target := change fun tree => tree.rename source target
  remove path := change fun tree => tree.remove path

end Tree

end OpShape
