import Playground.Failure
import Playground.Limits
import Playground.Sandbox.Host
import Playground.Wasm.Decode
import Playground.Wasm.Instance

/-!
# Running artifacts

Runs an artifact from its bytes to a result, with nothing but one linear memory and the request to
print at its disposal.

* `drive` — runs a machine, serving its requests, until it stops.
* `Sandbox.prepare` — an artifact made ready to run; nothing is printed yet.
* `Sandbox.execute` — a whole run.
-/

set_option autoImplicit false

namespace Playground

open Wasm Sandbox

/-- Why a machine that was driven did not finish. -/
inductive Sandbox.Stop where
  /-- A request was refused. -/
  | refused (f : Fault)
  | trapped (t : Trap)
  deriving DecidableEq, Repr

/-- Runs a machine with a budget of steps. A request that is refused ends the run. -/
def Sandbox.drive {σ : Type} (step : σ → Progress σ) :
    Nat → Host → σ → Host × Except Stop Store
  | 0, h, _ => (h, .error (.trapped .outOfFuel))
  | fuel + 1, h, m =>
    match step m with
    | .running next => drive step fuel h next
    | .finished store => (h, .ok store)
    | .trapped t => (h, .error (.trapped t))
    | .printing memory offset length next =>
      let h := h.print memory offset length
      match h.fault with
      | some f => (h, .error (.refused f))
      | none => drive step fuel h next

/-- The settings under which artifacts run. -/
structure Sandbox where
  /-- The name space of the two things on offer. -/
  space : String
  /-- The exported function that is called after the start function, if any. -/
  entryPoint : Option String
  limits : Limits
  /-- The number of steps after which a function is stopped. -/
  fuel : Nat
  deriving DecidableEq, Repr

namespace Sandbox

/-- Stands for words that the engine composes of its own. -/
def engineText : String := "<engine text>"

/-- A crash for each reason why a module cannot be made ready. -/
def linkCrash (s : Sandbox) : LinkError → Crash
  | .noMemory =>
    ⟨.link, "module does not import its linear memory as " ++ s.space ++ "." ++ memoryName⟩
  | .notAMemory =>
    ⟨.link, "import " ++ s.space ++ "." ++ memoryName ++ " must be a memory, found " ++ engineText⟩
  | .memoryRefused r => ⟨.link, "failed to create linear memory: " ++ r.message⟩
  | .pageRefused r => ⟨.link, "linear memory cannot hold the required page: " ++ r.message⟩
  | .unknownImport space name =>
    ⟨.link, "cannot find definition for import " ++ space ++ "::" ++ name ++ " with type " ++
      engineText⟩
  | .wrongSort space name =>
    ⟨.link, "found definition for import " ++ space ++ "::" ++ name ++ " with type " ++ engineText⟩
  | .functionMismatch => ⟨.link, "imported function type mismatch. expected " ++ engineText⟩
  | .memoryMismatch => ⟨.link, "imported memory type mismatch. expected " ++ engineText⟩
  | .ownMemoryRefused r => ⟨.link, "failed to instantiate memory: " ++ r.message⟩
  | .elementBounds => ⟨.link, "out of bounds table access: " ++ engineText⟩
  | .dataBounds => ⟨.trap, Trap.message .memoryBounds⟩

/-- The crash that a machine which stopped early amounts to. -/
def stopCrash : Stop → Crash
  | .refused f@(.outOfBounds ..) => ⟨.memoryAccess, f.message⟩
  | .refused f@(.outputLimit _) => ⟨.outputLimit, f.message⟩
  | .trapped t => ⟨.trap, t.message⟩

/-- The crash of a run that finds no entry point. -/
def entryCrash (name : String) (e : EntryError) : Crash :=
  ⟨.missingEntry, "entry point '" ++ name ++ "' is not an exported () -> () function: " ++ e.message⟩

/-- Makes an artifact ready to run. -/
def prepare (s : Sandbox) (artifact : List UInt8) : Except Crash Instance :=
  match Module.decode artifact >>= fun m => (m, ·) <$> m.validate with
  | .error _ => .error ⟨.invalidArtifact, engineText⟩
  | .ok (m, c) => (instantiate m c ⟨s.space⟩ s.limits.maxMemoryPages).mapError s.linkCrash

/-- What a run leaves: the console, and the number of lines printed or the crash. -/
structure Execution where
  console : Console
  result : Except Crash Nat

/-- Calls a function of an instance. -/
def callFunction (s : Sandbox) (i : Instance) (h : Host) (store : Store) (index : Nat) :
    Host × Except Crash Store :=
  match i.machine? store index with
  | none => (h, .ok store)
  | some m =>
    let (h, result) := drive (Machine.step i.program) s.fuel h m
    (h, result.mapError stopCrash)

/-- Calls the start function, if there is one. -/
def callStart (s : Sandbox) (i : Instance) (h : Host) : Host × Except Crash Store :=
  match i.start with
  | none => (h, .ok i.store)
  | some index => s.callFunction i h i.store index

/-- Calls the entry point, if one is configured. -/
def callEntry (s : Sandbox) (i : Instance) (h : Host) (store : Store) :
    Host × Except Crash Store :=
  match s.entryPoint with
  | none => (h, .ok store)
  | some name =>
    match i.entry name with
    | .error e => (h, .error (entryCrash name e))
    | .ok index => s.callFunction i h store index

/-- Runs an artifact. -/
def execute (s : Sandbox) (console : Console) (artifact : List UInt8) : Execution :=
  match s.prepare artifact with
  | .error crash => ⟨console, .error crash⟩
  | .ok i =>
    match s.callStart i (.new console s.limits.maxOutputLines) with
    | (h, .error crash) => ⟨h.console, .error crash⟩
    | (h, .ok store) =>
      match s.callEntry i h store with
      | (h, .error crash) => ⟨h.console, .error crash⟩
      | (h, .ok _) => ⟨h.console, .ok h.written⟩

end Sandbox

end Playground
