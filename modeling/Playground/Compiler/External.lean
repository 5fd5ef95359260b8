import Playground.Compiler.Gateway
import Playground.Compiler.Process
import Playground.Compiler.Resolve
import Playground.Config.Basic

/-!
# External compilers

A compiler that is a program of its own. For each compile it gets a directory of its own, finds the
source there and leaves the artifact there.

* `External.prepare` — looks for the program.
* `External.compiler` — the compiler; its state is the tree of all files.
-/

set_option autoImplicit false

namespace Playground

namespace Compiler

open Files

/-- A compiler that is a program of its own. -/
structure External where
  config : CompilerConfig
  /-- The path that the program is called by. -/
  program : String
  launcher : Launcher
  /-- The environment variables that programs get apart from the configured ones. -/
  environment : List (String × String)

namespace External

/-- Looks for the program of the configured command. -/
def prepare (v : View) (path : String) (launcher : Launcher)
    (environment : List (String × String)) (config : CompilerConfig) :
    Except ResolveError External :=
  (resolveCommand v path config.command).map (⟨config, ·, launcher, environment⟩)

/-- Where directories for single compiles are made. -/
def scratchParent : Place := ["tmp"]

/-- A name that nothing in a tree has yet, from the given number on; one of as many numbers as there
are entries, and one more, is free. -/
def freshName (t : Tree) (n : Nat) : Nat → String
  | 0 => "halcyon-" ++ toString n
  | tries + 1 =>
    let name := "halcyon-" ++ toString n
    if (t.find? (scratchParent ++ [name])).isNone then name else freshName t (n + 1) tries

/-- The place of a new directory for one compile. -/
def scratch (t : Tree) : Place := scratchParent ++ [freshName t 0 t.entries.length]

def writeFailure (e : FileError) : String := "failed to write source file: " ++ e.message

def startFailure (program : String) (e : FileError) : String :=
  "failed to start compiler " ++ program ++ ": " ++ e.message

def readFailure (name : String) (e : FileError) : String :=
  "compiler did not produce " ++ name ++ ": " ++ e.message

/-- The variables of a program: the configured ones take the place of those of the same name. -/
def bindings (x : External) : List (String × String) :=
  x.environment.filter (fun (name, _) => (x.config.env.lookup name).isNone) ++ x.config.env

/-- The program as it is started in a directory. -/
def invocation (x : External) (directory : Place) : Invocation where
  program := x.program
  arguments := x.config.expandedCommand.tail
  directory
  environment := x.bindings

/-- The path of a file of a compile. -/
def pathIn (directory : Place) (name : String) : String := Path.join (Path.render directory) name

/-- What the compiler answers once it has ended: the bytes of the artifact, or why there are none. -/
def collect (x : External) (directory : Place) (r : Report) : Answer :=
  if !r.status.isSuccess then .failure r.failurePayload
  else
    match r.tree.read directory (pathIn directory x.config.outputName) with
    | .ok bytes => .bytes bytes
    | .error e => .failure (readFailure x.config.outputName e)

/-- One compile in a directory that was just made. -/
def compileIn (x : External) (directory : Place) (t : Tree) (source : String) : Answer × Tree :=
  match t.write directory (pathIn directory x.config.sourceName) source.toUTF8.toList with
  | .error e => (.failure (writeFailure e), t)
  | .ok t =>
    match x.launcher t (x.invocation directory) with
    | .error e => (.failure (startFailure x.program e), t)
    | .ok r => (x.collect directory r, r.tree)

/-- One compile. Its directory is made before and taken away after it. -/
def compiler (x : External) : Compiler Tree := fun t source =>
  let directory := scratch t
  let (answer, t) := x.compileIn directory (t.put directory .directory) source
  (answer, t.erase directory)

end External

end Compiler

end Playground
