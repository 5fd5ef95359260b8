import Playground.CommandLine.Arguments
import Playground.Config.Load
import Playground.Describe
import Playground.Initialize

/-!
# The command line

What the commands do: each works on files and an input, and leaves a status, what it printed and
the files.

* `CommandLine.run` — does what arguments ask for.
* `Session.run` — an interactive session.
-/

set_option autoImplicit false

namespace Playground

open Files Arguments

/-- An error with what it came about by, the outermost first. -/
structure ErrorReport where
  message : String
  causes : List String
  deriving DecidableEq, Repr

namespace ErrorReport

/-- A text whose lines after the first are indented. -/
def indent (first others : String) (text : String) : String :=
  first ++ ("\n" ++ others).intercalate
    ((Text.Lines.cut '\n' text.toList).map String.ofList)

/-- The causes of an error, numbered if there are several. -/
def causeLines : List String → List String
  | [] => []
  | [only] => [indent "    " "    " only]
  | causes => causes.mapIdx fun n cause => indent ("    " ++ toString n ++ ": ") "       " cause

/-- The error as it is shown. -/
def render (f : ErrorReport) : String :=
  let causes := causeLines f.causes
  "Error: " ++ f.message ++
    (if causes.isEmpty then "" else "\n\nCaused by:\n" ++ "\n".intercalate causes) ++ "\n"

def ofConfig (e : Config.ConfigError) : ErrorReport :=
  ⟨"failed to load configuration", e.message :: e.cause.toList⟩

def ofInit (e : InitError) : ErrorReport :=
  ⟨"failed to initialize pipeline", e.message :: e.cause :: e.root.toList⟩

def ofSource (path : String) (e : FileError) : ErrorReport :=
  ⟨"failed to read source file " ++ path, [e.message]⟩

end ErrorReport

/-- What a command leaves. -/
structure Finish where
  code : Nat
  output : String
  errors : String
  tree : Tree

/-! ## Output -/

/-- What a terminal shows of a console; a line of dashes stands for a clear if `separator` says
so. -/
def terminalText (separator : Bool) (events : List Console.Event) : String :=
  String.join (events.map fun
    | .cleared => if separator then "----\n" else ""
    | .line text => text ++ "\n")

/-- The settings in force, as they are shown. -/
def configText (c : Config) : String :=
  "Compiler:\n" ++
    "  Command: " ++ " ".intercalate c.compiler.command ++ "\n" ++
    "  Source file: " ++ c.compiler.sourceName ++ "\n" ++
    "  Output file: " ++ c.compiler.outputName ++ "\n" ++
    "\nSandbox:\n" ++
    "  Namespace: " ++ c.sandbox.space ++ "\n" ++
    "  Entry point: " ++ Describe.option Text.Quoted.quote c.sandbox.entryPoint ++ "\n" ++
    "  Max memory pages: " ++ Describe.option toString c.sandbox.limits.maxMemoryPages ++ "\n" ++
    "  Max output lines: " ++ Describe.option toString c.sandbox.limits.maxOutputLines ++ "\n" ++
    "\nConsole history limit: " ++ Describe.option toString c.console.historyLimit ++ "\n"

/-! ## Pipelines -/

/-- The text of a source file. -/
def readSource (t : Tree) (here : Place) (path : String) : Except ErrorReport String :=
  match t.read here path with
  | .error e => .error (.ofSource path e)
  | .ok bytes =>
    match Text.Utf8.decode? bytes with
    | some text => .ok text
    | none => .error (.ofSource path .notText)

/-- A pipeline with a source file in its editor and a terminal at its console. -/
def openPipeline (s : Surroundings) (config : Config) (path : String) :
    Except ErrorReport (Pipeline Tree) := do
  let text ← readSource s.tree s.here path
  let p ← (Pipeline.ofConfig s config text).mapError .ofInit
  return p.setRenderer .steady

/-- What is left after one action: its failure is shown on the console alone. -/
def finish (p : Pipeline Tree) (failed : Bool) : Finish :=
  ⟨if failed then 1 else 0, terminalText false p.console.heard, "", p.gateway.state⟩

def compileFile (s : Surroundings) (config : Config) (path : String) :
    Except ErrorReport Finish := do
  let p ← openPipeline s config path
  match p.compile with
  | (.ok _, p) => return finish p false
  | (.error _, p) => return finish p true

def runFile (s : Surroundings) (config : Config) (path : String) (overrides : Limits) :
    Except ErrorReport Finish := do
  let p ← openPipeline s config path
  match (p.setLimits (config.effectiveLimits (some overrides))).run with
  | (.ok _, p) => return finish p false
  | (.error _, p) => return finish p true

/-! ## Sessions -/

namespace Session

def helpText : String :=
  "commands:
  compile  compile the editor contents
  run      run the program, compiling first if needed
  reload   re-read the source file into the editor
  state    show the pipeline state
  help     show this message
  quit     leave the session
"

/-- A session: its pipeline and what it wrote to the errors. -/
structure Talk where
  pipeline : Pipeline Tree
  errors : String

def Talk.say (t : Talk) (text : String) : Talk := { t with errors := t.errors ++ text }

/-- Answers one line of input; no answer ends the session. A source file that cannot be read any
more is an error. -/
def answer (here : Place) (path : String) (t : Talk) (line : String) :
    Except (Talk × ErrorReport) (Option Talk) :=
  match Text.Lines.trim line with
  | "" => .ok (some t)
  | "compile" => .ok (some { t with pipeline := t.pipeline.compile.2 })
  | "run" => .ok (some { t with pipeline := t.pipeline.run.2 })
  | "reload" =>
    match readSource t.pipeline.gateway.state here path with
    | .error f => .error (t, f)
    | .ok text =>
      .ok (some (Talk.say { t with pipeline := t.pipeline.edit text } ("reloaded " ++ path ++ "\n")))
  | "state" => .ok (some (t.say (t.pipeline.state.name ++ "\n")))
  | "help" => .ok (some (t.say helpText))
  | "quit" | "exit" => .ok none
  | other => .ok (some (t.say ("unknown command '" ++ other ++ "', type 'help' for a list\n")))

/-- Answers lines up to the end of the session. -/
def answerAll (here : Place) (path : String) (t : Talk) :
    List String → Talk × Option ErrorReport
  | [] => (t, none)
  | line :: rest =>
    match answer here path t line with
    | .error (t, f) => (t, some f)
    | .ok none => (t, none)
    | .ok (some t) => answerAll here path t rest

/-- A whole session with its input. -/
def run (s : Surroundings) (config : Config) (path input : String) :
    Except ErrorReport Finish := do
  let p ← openPipeline s config path
  let (t, fault) := answerAll s.here path ⟨p, helpText⟩ (Text.Lines.ofMessage input)
  return {
    code := if fault.isSome then 1 else 0
    output := terminalText true t.pipeline.console.heard
    errors := t.errors ++ (fault.map ErrorReport.render).getD ""
    tree := t.pipeline.gateway.state }

end Session

/-! ## All commands -/

namespace CommandLine

def versionText : String := "halcyon-ide 0.1.0\n"

def usageText : String :=
  "Usage: halcyon-ide [-c FILE] [-v] COMMAND

Commands:
  init [-f] [-o FILE]   write a configuration to begin with
  compile FILE          compile a source file and report diagnostics
  run FILE [--max-memory-pages N] [--max-output-lines N]
                        compile a source file and run the program
  session FILE          compile and run on commands from the input
  show-config           show the configuration
"

/-- The configuration to work with: that of a file, or the one that holds without a file. -/
def configuration (s : Surroundings) (path : Option String) : Except ErrorReport Config :=
  match path with
  | none => .ok .default
  | some path => (Config.load s.tree s.here path).mapError .ofConfig

/-- Writes a configuration to begin with, unless that would overwrite something. -/
def initConfig (s : Surroundings) (path : String) (force : Bool) : Except ErrorReport Finish :=
  if (s.tree.stat s.here path).toOption.isSome && !force then
    .error ⟨"Configuration file already exists at '" ++ path ++ "'. Use --force to overwrite.", []⟩
  else
    match s.tree.write s.here path Config.exampleText.toUTF8.toList with
    | .error e => .error ⟨"failed to write configuration file", [e.message]⟩
    | .ok tree => .ok ⟨0, "Created configuration file at '" ++ path ++ "'\n", "", tree⟩

/-- Does what a request asks for. -/
def perform (s : Surroundings) (input : String) (config : Config) :
    Action → Except ErrorReport Finish
  | .init output force => initConfig s output force
  | .compile source => compileFile s config source
  | .run source overrides => runFile s config source overrides
  | .session source => Session.run s config source input
  | .showConfig => .ok ⟨0, configText config, "", s.tree⟩

/-- Does what arguments ask for. -/
def run (s : Surroundings) (input : String) (arguments : List String) : Finish :=
  match Arguments.parse arguments with
  | none => ⟨2, "", usageText, s.tree⟩
  | some .version => ⟨0, versionText, "", s.tree⟩
  | some .help => ⟨0, usageText, "", s.tree⟩
  | some (.act path action) =>
    match configuration s path >>= fun config => perform s input config action with
    | .ok f => f
    | .error f => ⟨1, "", f.render, s.tree⟩

end CommandLine

end Playground
