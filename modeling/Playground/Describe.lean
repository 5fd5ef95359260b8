import Playground.Text.Quoted
import Playground.Console
import Playground.Pipeline

/-!
# Descriptions

One-line descriptions of values for people who look into a running pipeline: the name of the type
and its fields.
-/

set_option autoImplicit false

namespace Playground.Describe

open Text

/-- A record: its name and its fields. -/
def record (name : String) (fields : List (String × String)) : String :=
  name ++ " \x7b " ++ ", ".intercalate (fields.map fun (k, v) => k ++ ": " ++ v) ++ " \x7d"

/-- A record of which some fields are left out. -/
def partialRecord (name : String) (fields : List (String × String)) : String :=
  name ++ " \x7b " ++ ", ".intercalate (fields.map fun (k, v) => k ++ ": " ++ v) ++ ", .. \x7d"

/-- A name with one part. -/
def wrapped (name inner : String) : String := name ++ "(" ++ inner ++ ")"

def option {α : Type} (f : α → String) : Option α → String
  | none => "None"
  | some a => wrapped "Some" (f a)

def bool (b : Bool) : String := if b then "true" else "false"

def list (items : List String) : String := "[" ++ ", ".intercalate items ++ "]"

def limits (l : Limits) : String :=
  record "SandboxLimits"
    [("max_memory_pages", option toString l.maxMemoryPages),
      ("max_output_lines", option toString l.maxOutputLines)]

def console (c : Console) : String :=
  record "Console"
    [("lines", toString c.buffer.size), ("history_limit", option toString c.historyLimit),
      ("renderer", bool c.renderer.isSome)]

def sandbox (s : Sandbox) : String :=
  partialRecord "Sandbox"
    [("namespace", Quoted.quote s.space), ("entry_point", option Quoted.quote s.entryPoint),
      ("limits", limits s.limits)]

def diagnostic (d : Diagnostic) : String :=
  record "Diagnostic" [("lines", list (d.lines.map Quoted.quote))]

def crash (c : Crash) : String :=
  record "CrashReport" [("kind", c.kind.name), ("message", Quoted.quote c.message)]

def failure : Failure → String
  | .diagnostic d => wrapped "Diagnostic" (diagnostic d)
  | .crash c => wrapped "Crash" (crash c)

def state : State → String
  | .idle => "Idle"
  | .compiling => "Compiling"
  | .compiled => "Compiled"
  | .running => "Running"
  | .failed f => wrapped "Failed" (failure f)

def artifact (a : Artifact) : String := record "Artifact" [("len", toString a.bytes.length)]

def gateway {σ : Type} (g : Gateway σ) : String :=
  partialRecord "CompilerGateway" [("invocations", toString g.invocations)]

def cache (c : Cache) : String := record "ArtifactCache" [("artifact", option artifact c.held)]

def pipeline {σ : Type} (p : Pipeline σ) : String :=
  partialRecord "Pipeline"
    [("state", state p.state), ("cached", bool p.cache.held.isSome),
      ("gateway", gateway p.gateway), ("sandbox", sandbox p.sandbox)]

end Playground.Describe
