import Playground.Files.View

/-!
# Finding the compiler

A name without a slash is looked for in the directories of a search path, in their order; a name
with one is a path itself. A program is called by its canonical path, as long as it has one.

* `searchPath` — the directories of a search path.
* `resolveProgram` — the path of the program of a name.
-/

set_option autoImplicit false

namespace Playground

namespace Compiler

open Files

/-- Why there is no compiler. -/
inductive ResolveError where
  /-- There is no name to look for. -/
  | emptyCommand
  | notFound (name : String)
  /-- The path names something that is no ordinary file. -/
  | notAFile (path : String)
  /-- There is a file, but no canonical path of it. -/
  | unnameable (e : FileError)
  deriving DecidableEq, Repr

/-- The error in words. -/
def ResolveError.message : ResolveError → String
  | emptyCommand => "compiler command is empty"
  | notFound name => "compiler '" ++ name ++ "' not found in PATH"
  | notAFile path => "compiler path " ++ path ++ " is not a file"
  | unnameable e => "I/O error: " ++ e.message

/-- The words of the error underneath, if there is one. -/
def ResolveError.cause : ResolveError → Option String
  | unnameable e => some e.message
  | _ => none

/-- The directories of a search path: what stands between its colons, unless that is
nothing. -/
def searchPath (path : String) : List String :=
  ((Text.Lines.cut ':' path.toList).filter (!·.isEmpty)).map String.ofList

/-- The canonical path of what a path names, or the path itself if there is none. -/
def canonicalOr (v : View) (path : String) : String :=
  match v.canonicalize path with
  | .ok place => Path.render place
  | .error _ => path

/-- What the program at a path is called by, if there is an ordinary file. -/
def programAt? (v : View) (path : String) : Option String :=
  match v.stat path with
  | .ok (_, entry) => if entry.isFile then some (canonicalOr v path) else none
  | .error _ => none

/-- The program with a path for its name. -/
def resolvePath (v : View) (path : String) : Except ResolveError String :=
  match v.stat path with
  | .ok (_, entry) =>
    if entry.isFile then
      match v.canonicalize path with
      | .ok place => .ok (Path.render place)
      | .error e => .error (.unnameable e)
    else .error (.notAFile path)
  | .error _ => .error (.notFound path)

/-- The first program of a name in some directories. -/
def searchDirectories (v : View) (name : String) (directories : List String) :
    Except ResolveError String :=
  match directories.findSome? fun directory => programAt? v (Path.join directory name) with
  | some program => .ok program
  | none => .error (.notFound name)

/-- What the program of a name is called by; `path` is the search path. -/
def resolveProgram (v : View) (path name : String) : Except ResolveError String :=
  if name.toList.contains '/' then resolvePath v name
  else searchDirectories v name (searchPath path)

/-- What the program of a command is called by. -/
def resolveCommand (v : View) (path : String) (command : List String) :
    Except ResolveError String :=
  match command.head? with
  | none | some "" => .error .emptyCommand
  | some name => resolveProgram v path name

end Compiler

end Playground
