import Playground.Compiler.External
import Playground.Pipeline

/-!
# Setting up a pipeline

* `Pipeline.ofConfig` — a pipeline around the configured compiler, once the settings are valid and
  the program of the compiler is found.
-/

set_option autoImplicit false

namespace Playground

open Files Compiler

/-- What a pipeline is set up in. -/
structure Surroundings where
  tree : Tree
  /-- The directory that paths start from. -/
  here : Place
  /-- What is refused when the compiler is looked for. -/
  refusals : Refusals
  /-- The directories that programs are looked for in, with colons between them. -/
  searchPath : String
  environment : List (String × String)
  launcher : Launcher
  /-- The number of steps after which a function of a program is stopped. -/
  fuel : Nat

/-- The tree as it is seen when the compiler is looked for. -/
def Surroundings.view (s : Surroundings) : View := ⟨s.tree, s.here, s.refusals⟩

/-- Why a pipeline cannot be set up. -/
inductive InitError where
  | invalid (v : Config.Violation)
  | noCompiler (e : ResolveError)
  deriving DecidableEq, Repr

namespace InitError

/-- The error underneath. -/
def cause : InitError → String
  | invalid v => v.message
  | noCompiler e => e.message

/-- The words of the error under that one, if there is one. -/
def root : InitError → Option String
  | invalid _ => none
  | noCompiler e => e.cause

/-- The error in words. -/
def message (e : InitError) : String :=
  match e with
  | invalid _ => "invalid configuration: " ++ e.cause
  | noCompiler _ => "failed to prepare compiler: " ++ e.cause

end InitError

/-- The sandbox of a configuration. -/
def SandboxConfig.sandbox (c : SandboxConfig) (fuel : Nat) : Sandbox :=
  ⟨c.space, c.entryPoint, c.limits, fuel⟩

namespace Pipeline

/-- A pipeline with the sandbox and the console of a configuration around any compiler. -/
def withCompiler {σ : Type} (compiler : Compiler σ) (start : σ) (config : Config) (fuel : Nat)
    (text : String) : Pipeline σ :=
  .new compiler start (config.sandbox.sandbox fuel) Sandbox.perform config.console.historyLimit text

/-- A pipeline around the configured compiler. -/
def ofConfig (s : Surroundings) (config : Config) (text : String) :
    Except InitError (Pipeline Tree) := do
  config.validate.mapError .invalid
  let external ← (External.prepare s.view s.searchPath s.launcher s.environment
    config.compiler).mapError .noCompiler
  return withCompiler external.compiler s.tree config s.fuel text

end Pipeline

end Playground
