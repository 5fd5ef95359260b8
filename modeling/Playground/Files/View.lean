import Playground.Files.Tree

/-!
# What a process sees of a tree

A process looks at files from its working directory, and the system may refuse what the tree would
tell: a directory may be one that the process is not allowed to search, a device may fail, a file
may go away between two looks.

* `Refusals` — what is refused, and why.
* `View.stat`, `View.canonicalize` — what a path names and its canonical place, as far as they are
  told.
-/

set_option autoImplicit false

namespace Playground

namespace Files

/-- What is refused to a process for reasons that are not in the tree. -/
structure Refusals where
  /-- Why it is not told what a path names. -/
  lookup : String → Option FileError
  /-- Why the canonical place of a path is not told, though it may be told what the path names: for
  this all directories from the root on are searched. -/
  canonical : String → Option FileError

/-- Nothing is refused. -/
def Refusals.nothing : Refusals := ⟨fun _ => none, fun _ => none⟩

/-- A tree as a process sees it. -/
structure View where
  tree : Tree
  /-- The directory that paths start from. -/
  here : Place
  refusals : Refusals

namespace View

/-- What a path names, links followed. -/
def stat (v : View) (path : String) : Except FileError (Place × Entry) :=
  match v.refusals.lookup path with
  | some e => .error e
  | none => v.tree.stat v.here path

/-- The canonical place of what a path names. -/
def canonicalize (v : View) (path : String) : Except FileError Place :=
  match v.refusals.canonical path with
  | some e => .error e
  | none => v.tree.canonicalize v.here path

end View

end Files

end Playground
