import Playground.Limits
import Playground.Config.Placeholder

/-!
# Configuration

The settings of a pipeline: which command compiles, what the sandbox offers and grants, and how much
the console keeps.

* `Config.default` — the settings that hold without a file; `Config.exampleText` spells them out.
* `Config.validate` — what settings must fulfil before anything is done with them.
-/

set_option autoImplicit false

namespace Playground

/-- How the external compiler is run. -/
structure CompilerConfig where
  /-- The program and its arguments, with placeholders. -/
  command : List String
  /-- The name of the file that the source is written to. -/
  sourceName : String
  /-- The name of the file that the compiler writes. -/
  outputName : String
  /-- Environment variables for the compiler, in ascending order of their names. -/
  env : List (String × String)
  deriving DecidableEq, Repr

structure SandboxConfig where
  /-- The name space of what programs may import. -/
  space : String
  /-- The exported function called after the start function, if any. -/
  entryPoint : Option String
  limits : Limits
  deriving DecidableEq, Repr

structure ConsoleConfig where
  /-- Greatest number of lines kept. -/
  historyLimit : Option Nat
  deriving DecidableEq, Repr

/-- The settings of a pipeline. -/
structure Config where
  compiler : CompilerConfig
  sandbox : SandboxConfig
  console : ConsoleConfig
  deriving DecidableEq, Repr

/-- The command with the file names in place of the placeholders. -/
def CompilerConfig.expandedCommand (c : CompilerConfig) : List String :=
  Config.expandCommand c.sourceName c.outputName c.command

def SandboxConfig.default : SandboxConfig := ⟨"sys", none, .unlimited⟩

def ConsoleConfig.default : ConsoleConfig := ⟨none⟩

namespace Config

/-- The limits of a run: the configured ones, with overrides laid over them. -/
def effectiveLimits (c : Config) (overrides : Option Limits) : Limits :=
  match overrides with
  | none => c.sandbox.limits
  | some overrides => c.sandbox.limits.withOverrides overrides

/-- The settings that hold without a file. -/
def default : Config where
  compiler := ⟨["halcyonc", "{source}", "-o", "{output}"], "main.hc", "main.wasm", []⟩
  sandbox := ⟨"sys", none, ⟨some 256, none⟩⟩
  console := ⟨some 10000⟩

/-- A file with the settings that hold without one. -/
def exampleText : String :=
  "# Halcyon IDE configuration

# External compiler. The source is written into a scratch directory as
# `source_name`, the command runs there, and the artifact is read back
# from `output_name`. Placeholders: {source}, {output}
[compiler]
command = [\"halcyonc\", \"{source}\", \"-o\", \"{output}\"]
source_name = \"main.hc\"
output_name = \"main.wasm\"

[compiler.env]

# Execution sandbox. Programs import `memory` and `print_string`
# from `namespace`; nothing else is provided.
[sandbox]
namespace = \"sys\"
# Exported `() -> ()` function to call after the start function runs
# entry_point = \"main\"

[sandbox.limits]
max_memory_pages = 256
# max_output_lines = 100000

[console]
history_limit = 10000
"

/-! ## Validation -/

/-- The two file names of a compile. -/
inductive NameField where
  | source
  | output
  deriving DecidableEq, Repr

def NameField.key : NameField → String
  | source => "source_name"
  | output => "output_name"

/-- What settings can fail to fulfil. -/
inductive Violation where
  | emptyCommand
  | emptyName (field : NameField)
  /-- A name that could lead out of its directory. -/
  | unsafeName (name : String)
  | equalNames (name : String)
  | emptySpace
  | emptyEntryPoint
  | noMemoryPages
  | noOutputLines
  | noHistory
  deriving DecidableEq, Repr

/-- The violation in words. -/
def Violation.message : Violation → String
  | emptyCommand => "invalid config: compiler command is empty"
  | emptyName field => "invalid config: compiler " ++ field.key ++ " is empty"
  | unsafeName name => "invalid file name '" ++ name ++ "': must not contain '/' or '..'"
  | equalNames name =>
    "invalid config: compiler source_name and output_name are both '" ++ name ++ "'"
  | emptySpace => "invalid config: sandbox namespace is empty"
  | emptyEntryPoint => "invalid config: sandbox entry_point is empty"
  | noMemoryPages => "invalid config: max_memory_pages must be at least 1"
  | noOutputLines => "invalid config: max_output_lines must be at least 1"
  | noHistory => "invalid config: console history_limit must be at least 1"

/-- Requires `condition`. -/
def require (condition : Bool) (v : Violation) : Except Violation Unit :=
  if condition then .ok () else .error v

/-- Whether two dots stand side by side. -/
def hasDoubleDot : List Char → Bool
  | '.' :: '.' :: _ => true
  | _ :: rest => hasDoubleDot rest
  | [] => false

/-- Whether a file name can lead out of the directory it is looked up in. -/
def isUnsafeName (name : String) : Bool := name.toList.contains '/' || hasDoubleDot name.toList

def validateName (field : NameField) (name : String) : Except Violation Unit := do
  require (!name.isEmpty) (.emptyName field)
  require (!isUnsafeName name) (.unsafeName name)

/-- The command has a program; the two file names are safe and differ. -/
def validateCompiler (c : CompilerConfig) : Except Violation Unit := do
  require (c.command.head?.any (!·.isEmpty)) .emptyCommand
  validateName .source c.sourceName
  validateName .output c.outputName
  require (c.sourceName != c.outputName) (.equalNames c.sourceName)

/-- Names are given where they are wanted, and no limit is zero. -/
def validate (c : Config) : Except Violation Unit := do
  validateCompiler c.compiler
  require (!c.sandbox.space.isEmpty) .emptySpace
  require (c.sandbox.entryPoint != some "") .emptyEntryPoint
  require (c.sandbox.limits.maxMemoryPages != some 0) .noMemoryPages
  require (c.sandbox.limits.maxOutputLines != some 0) .noOutputLines
  require (c.console.historyLimit != some 0) .noHistory

end Config

end Playground
