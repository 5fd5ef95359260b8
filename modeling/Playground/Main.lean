import Playground.CommandLine.Command
import Playground.Shell.Userland

/-!
# The program

What the machine has is gathered into a tree of files, the command line is run on it, and what it
changed is written back.

* `Request.paths` — the files that a request names.
* `main` — the program.
-/

set_option autoImplicit false

namespace Playground

open Files

namespace Arguments

/-- The files that an action names. -/
def Action.paths : Action → List String
  | init output _ => [output]
  | compile source | run source _ | session source => [source]
  | showConfig => []

/-- The files that a request names. A configuration may have an ending that is left out. -/
def Request.paths : Request → List String
  | act config action =>
    config.toList.flatMap (fun path => [path, path ++ ".toml", path ++ ".json"]) ++ action.paths
  | version | help => []

/-- Whether a request goes on with what is typed. -/
def Request.isInteractive : Request → Bool
  | act _ (.session _) => true
  | _ => false

end Arguments

namespace CommandLine

/-- The paths where the program of a command may be. -/
def programPaths (searchPath : String) (command : List String) : List String :=
  match command.head? with
  | none => []
  | some name =>
    if name.toList.contains '/' then [name]
    else (Compiler.searchPath searchPath).map (Path.join · name)

/-- The tree with a directory at a place and at all places on the way there. -/
def withDirectories (t : Tree) (place : Place) : Tree :=
  (List.range (place.length + 1)).foldl (fun t n =>
    let above := place.take n
    if (t.find? above).isSome then t else t.put above .directory) t

/-- The files of a tree that another tree has not, or not so. -/
def changes (before after : Tree) : List (Place × List UInt8) :=
  after.entries.filterMap fun (place, entry) =>
    match entry with
    | .file bytes _ =>
      if (before.find? place).map Entry.bytes = some bytes then none else some (place, bytes)
    | _ => none

/-- Gathers what the machine has at a path. -/
def gather (executable : Bool) (here : Place) (t : Tree) (path : String) : IO Tree := do
  let place := Path.resolve here path
  if (t.find? place).isSome then return t
  let real := (← IO.currentDir) / path
  if ← real.isDir then return withDirectories t place
  match ← (IO.FS.readBinFile real).toBaseIO with
  | .ok bytes => return (withDirectories t place.dropLast).put place (.file bytes.toList executable)
  | .error _ => return t

/-- Puts back what was changed. -/
def restore (before after : Tree) : IO Unit :=
  (changes before after).forM fun (place, bytes) => do
    IO.FS.createDirAll (Path.render place.dropLast)
    IO.FS.writeBinFile (Path.render place) ⟨bytes.toArray⟩

/-- The number of steps after which a function is stopped. -/
def stepLimit : Nat := Nat.pow 2 40

end CommandLine

end Playground

open Playground CommandLine in
/-- Runs the command line on the files of the machine. -/
def main (arguments : List String) : IO UInt32 := do
  let here := Path.components (← IO.currentDir).toString
  let searchPath := (← IO.getEnv "PATH").getD ""
  let request := Arguments.parse arguments
  let paths := (request.map Arguments.Request.paths).getD []
  let tree ← paths.foldlM (gather false here) (withDirectories Shell.Userland.tree here)
  let surroundings : Surroundings :=
    { tree, here, refusals := .nothing, searchPath, environment := [("PATH", searchPath)]
      launcher := Shell.Userland.launch, fuel := stepLimit }
  let command := match request with
    | some (.act path _) =>
      ((configuration surroundings path).toOption.map (·.compiler.command)).getD []
    | _ => []
  let tree ← (programPaths searchPath command).foldlM (gather true here) tree
  let input ← if (request.map Arguments.Request.isInteractive).getD false then
    (← IO.getStdin).readToEnd else pure ""
  let finish := CommandLine.run { surroundings with tree } input arguments
  IO.print finish.output
  IO.eprint finish.errors
  restore tree finish.tree
  return finish.code.toUInt32
