import Playground.Compiler.Cache
import Playground.Sandbox.Run

/-!
# The pipeline

An editor, a compiler, a cache, a sandbox and a console in one: the text is compiled, the artifact
is run, and what there is to read goes to the console.

* `State` — where the pipeline stands; every change of it is told to the observers.
* `Pipeline.compile`, `Pipeline.run` — the two actions.
* `Pipeline.edit`, `Pipeline.notifyEdit` — the edit event, which makes the artifact stale.
* `Pipeline.journal` — everything that happened, in one order.
-/

set_option autoImplicit false

namespace Playground

/-- Where a pipeline stands. -/
inductive State where
  | idle
  | compiling
  | compiled
  | running
  | failed (why : Failure)
  deriving DecidableEq, Repr

/-- The state in one word. -/
def State.name : State → String
  | idle => "idle"
  | compiling => "compiling"
  | compiled => "compiled"
  | running => "running"
  | failed _ => "failed"

/-- A change of state. -/
structure Transition where
  source : State
  target : State
  deriving DecidableEq, Repr

/-- What can happen in a pipeline. -/
inductive Occurrence where
  /-- The console changed. -/
  | console (event : Console.Event)
  /-- The program printed a line. -/
  | printed (line : String)
  /-- The compiler was called, while the cache held what is given. -/
  | called (source : String) (held : Option Artifact)
  /-- The call came to an artifact. -/
  | delivered (artifact : Artifact)
  /-- The call came to a diagnostic. -/
  | rejected (d : Diagnostic)
  /-- A program was started. -/
  | started (artifact : Artifact)
  /-- The edit event was fired. -/
  | edited
  | changed (change : Transition)
  deriving DecidableEq, Repr

/-- What a call to the compiler came to. -/
def Occurrence.answered : Except Diagnostic Artifact → Occurrence
  | .ok artifact => delivered artifact
  | .error d => rejected d

/-- What a run of an artifact comes to: the lines it prints, and their number or the crash. -/
structure Performance where
  lines : List String
  result : Except Crash Nat

/-- Something that runs artifacts under the settings of a sandbox. -/
abbrev Runner := Sandbox → List UInt8 → Performance

/-- A run on a console of its own, of which all lines are kept. -/
def Sandbox.perform : Runner := fun s artifact =>
  let e := s.execute (Console.new none) artifact
  ⟨e.console.lines, e.result⟩

/-- What a successful run reports. -/
structure RunReport where
  /-- Whether the text had to be compiled first. -/
  compiled : Bool
  linesWritten : Nat
  deriving DecidableEq, Repr

/-- A pipeline around a compiler with states `σ`. -/
structure Pipeline (σ : Type) where
  /-- The text in the editor. -/
  text : String
  gateway : Gateway σ
  cache : Cache
  sandbox : Sandbox
  runner : Runner
  console : Console
  state : State
  /-- For each observer, the changes it was told of. -/
  observers : Array (Array Transition)
  journal : Array Occurrence

namespace Pipeline

variable {σ : Type}

/-- A pipeline at rest. -/
def new (compiler : Compiler σ) (start : σ) (sandbox : Sandbox) (runner : Runner)
    (historyLimit : Option Nat) (text : String) : Pipeline σ where
  text
  gateway := .new compiler start
  cache := .empty
  sandbox
  runner
  console := .new historyLimit
  state := .idle
  observers := #[]
  journal := #[]

/-- Adds an observer, which hears of every change from now on. -/
def observe (p : Pipeline σ) : Pipeline σ := { p with observers := p.observers.push #[] }

/-- Attaches a renderer to the console. -/
def setRenderer (p : Pipeline σ) (r : Renderer) : Pipeline σ :=
  { p with console := p.console.setRenderer r }

/-! ## Steps -/

/-- Notes an occurrence. -/
def note (p : Pipeline σ) (o : Occurrence) : Pipeline σ := { p with journal := p.journal.push o }

/-- Enters a state and tells the observers. -/
def enter (p : Pipeline σ) (target : State) : Pipeline σ :=
  let change : Transition := ⟨p.state, target⟩
  { p with
    state := target
    observers := p.observers.map (·.push change)
    journal := p.journal.push (.changed change) }

def clearConsole (p : Pipeline σ) : Pipeline σ :=
  { p with console := p.console.clear.console }.note (.console .cleared)

def writeLine (p : Pipeline σ) (line : String) : Pipeline σ :=
  { p with console := (p.console.writeLine line).console }.note (.console (.line line))

def writeLines (p : Pipeline σ) (lines : List String) : Pipeline σ := lines.foldl writeLine p

/-- A line that the program prints. -/
def printLine (p : Pipeline σ) (line : String) : Pipeline σ :=
  (p.note (.printed line)).writeLine line

def printLines (p : Pipeline σ) (lines : List String) : Pipeline σ := lines.foldl printLine p

/-- What the console shows of a successful compile. -/
def successLine : String := "Compiled Successfully"

/-- Gets the artifact of the present text, from the cache or from the compiler. -/
def fetch (p : Pipeline σ) : Except Diagnostic Fetched × Pipeline σ :=
  let (result, cache, gateway) := p.cache.fetch p.gateway p.text
  let p :=
    if p.cache.held.isSome then p
    else (p.note (.called p.text p.cache.held)).note (.answered (result.map (·.artifact)))
  (result, { p with cache, gateway })

/-- Compiles the present text: the part that the two actions share. -/
def compileText (p : Pipeline σ) : Except Diagnostic Artifact × Pipeline σ :=
  match (p.enter .compiling).fetch with
  | (.ok fetched, p) => (.ok fetched.artifact, (p.writeLine successLine).enter .compiled)
  | (.error d, p) =>
    let p := { p with cache := .empty }.writeLines d.lines
    (.error d, p.enter (.failed (.diagnostic d)))

/-- Runs an artifact. A crash is reported on the console. -/
def perform (p : Pipeline σ) (artifact : Artifact) (compiled : Bool) :
    Except Failure RunReport × Pipeline σ :=
  let p := (p.enter .running).note (.started artifact)
  let ⟨lines, result⟩ := p.runner p.sandbox artifact.bytes
  let p := p.printLines lines
  match result with
  | .ok linesWritten => (.ok ⟨compiled, linesWritten⟩, p.enter .compiled)
  | .error crash =>
    (.error (.crash crash), (p.writeLines crash.consoleLines).enter (.failed (.crash crash)))

/-! ## Actions and events -/

/-- The action of compiling. An artifact that is still in the cache is used again. -/
def compile (p : Pipeline σ) : Except Diagnostic Artifact × Pipeline σ := p.clearConsole.compileText

/-- The action of running; the text is compiled first if the cache is empty. A program that crashed
stays in the cache. -/
def run (p : Pipeline σ) : Except Failure RunReport × Pipeline σ :=
  let p := p.clearConsole
  match p.cache.held with
  | some artifact => p.perform artifact false
  | none =>
    match p.compileText with
    | (.ok artifact, p) => p.perform artifact true
    | (.error d, p) => (.error (.diagnostic d), p)

/-- The edit event: the artifact is stale. -/
def notifyEdit (p : Pipeline σ) : Pipeline σ :=
  let p := { p with cache := .empty }.note .edited
  if p.state = .compiled then p.enter .idle else p

/-- Replaces the text behind the back of the pipeline. -/
def replaceText (p : Pipeline σ) (text : String) : Pipeline σ := { p with text }

/-- Replaces the text and fires the edit event. -/
def edit (p : Pipeline σ) (text : String) : Pipeline σ := (p.replaceText text).notifyEdit

def setLimits (p : Pipeline σ) (limits : Limits) : Pipeline σ :=
  { p with sandbox := { p.sandbox with limits } }

end Pipeline

end Playground
