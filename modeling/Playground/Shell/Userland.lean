import Playground.Compiler.Process
import Playground.Shell.Run

/-!
# The system that programs run on

A tree of files with a shell and the utilities, and a way to start programs in it.

* `Userland.tree` — the files that are there from the start.
* `Userland.launch` — starts a program and waits for it to end.
-/

set_option autoImplicit false

namespace Playground.Shell

open Files Compiler

namespace Userland

/-- Where the programs of the system are. -/
def programs : Place := ["usr", "bin"]

/-- The programs of the system. -/
def tools : List String :=
  ["dash", "echo", "printf", "test", "[", "pwd", "kill"] ++ Utility.all.map (·.1)

/-- The files that are there from the start. -/
def tree : Tree :=
  ⟨([(["bin"], .link "usr/bin"), (["sbin"], .link "usr/sbin"), (["dev"], .directory),
      (["dev", "null"], .null), (["tmp"], .directory), (["usr"], .directory),
      (programs, .directory), (["usr", "sbin"], .directory), (["usr", "local"], .directory),
      (["usr", "local", "bin"], .directory), (["usr", "local", "sbin"], .directory),
      (programs ++ ["sh"], .link "dash")] : List (Files.Place × Files.Entry)) ++
    tools.map fun name => (programs ++ [name], .tool name)⟩

/-- How deep commands may be nested and how many turns a loop may take, both together. -/
def budget : Nat := 5000

/-- A shell at the start of a program, with its three descriptors. -/
def start (t : Tree) (p : Invocation) : State where
  world := ⟨t, #[.source [] false, .sink [], .sink []]⟩
  env :=
    { name := Raw.ofString p.program
      arguments := p.arguments.map Raw.ofString
      bindings := p.environment.map fun (name, value) =>
        (Raw.ofString name, ⟨Raw.ofString value, true⟩)
      functions := []
      here := p.directory
      descriptors := [(0, 0), (1, 1), (2, 2)]
      status := 0
      outputStatus := none
      line := 1
      exitOnError := false
      failOnUnset := false
      guarded := false
      traps := [] }

/-- The program at a path, if it can be run. -/
def executable (t : Tree) (here : Place) (path : String) : Except FileError (Place × Entry) := do
  let (place, entry) ← t.stat here path
  if entry.isFile && entry.isExecutable then return (place, entry) else throw .denied

/-- Where the program is that is to be started, unless it cannot be started. -/
def startable (t : Tree) (p : Invocation) : Except FileError Place := do
  let hasZero (s : String) : Bool := s.toList.contains '\x00'
  if hasZero p.program || p.arguments.any hasZero ||
      p.environment.any (fun (n, v) => hasZero n || hasZero v) then
    throw .badArgument
  let (place, entry) ← executable t p.directory p.program
  match entry with
  | .tool _ => return place
  | entry =>
    match Exec.interpreter? (Raw.ofBytes entry.bytes) with
    | none => throw .notProgram
    | some (path, _) =>
      let _ ← executable t p.directory (Raw.toString path)
      return place

/-- How a program ended. One that did not end in time is killed. -/
def statusOf (result : Except Jump Unit) (s : State) : Status :=
  match result with
  | .ok () => .exited s.env.status
  | .error (.leave status) => .exited status
  | .error (.signal n) => .signalled n
  | .error .exhausted => .signalled 9
  | .error _ => .exited s.env.status

/-- What was written to a stream. -/
def bytesOf (s : State) (stream : Nat) : List UInt8 :=
  match s.world.streams[stream]? with
  | some (.sink parts) => Raw.toBytes parts.reverse.flatten
  | _ => []

/-- Starts a program and waits for it to end. -/
def launch : Launcher := fun t p =>
  match startable t p with
  | .error e => .error e
  | .ok place =>
    let s := start t p
    let run := Exec.program budget place s.env.name s.env.name s.env.arguments
    let (result, s) := run.run.run s
    .ok ⟨statusOf result s, bytesOf s 1, bytesOf s 2, s.world.tree⟩

end Userland

end Playground.Shell
