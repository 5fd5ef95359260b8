import Playground.Diagnostic

/-!
# Crashes and failures

Why an action did not succeed: the compile failed, or the program did.

* `Crash` — what ended a program, and the lines that report it on the console.
* `Failure` — a diagnostic or a crash.
-/

set_option autoImplicit false

namespace Playground

open Text

/-- The ways in which running an artifact can fail. -/
inductive CrashKind where
  /-- The artifact is not a valid module. -/
  | invalidArtifact
  /-- The module asks for something the sandbox does not provide. -/
  | link
  /-- The program did something that has no result. -/
  | trap
  /-- The program asked to print bytes outside its memory. -/
  | memoryAccess
  /-- The program printed more lines than it may. -/
  | outputLimit
  /-- The module has no entry point of the configured name. -/
  | missingEntry
  deriving DecidableEq, Repr

namespace CrashKind

/-- The kind in words. -/
def display : CrashKind → String
  | invalidArtifact => "invalid artifact"
  | link => "link error"
  | trap => "trap"
  | memoryAccess => "memory access out of bounds"
  | outputLimit => "output limit exceeded"
  | missingEntry => "missing entry point"

/-- The kind as one word. -/
def name : CrashKind → String
  | invalidArtifact => "InvalidArtifact"
  | link => "Link"
  | trap => "Trap"
  | memoryAccess => "MemoryAccess"
  | outputLimit => "OutputLimit"
  | missingEntry => "MissingEntry"

end CrashKind

/-- The report of a program that did not finish. -/
structure Crash where
  kind : CrashKind
  message : String
  deriving DecidableEq, Repr

namespace Crash

/-- The report as one text. -/
def display (c : Crash) : String := c.kind.display ++ ": " ++ c.message

/-- The line above every crash message. -/
def header : String := "The program has crashed with the message:"

/-- What the console shows of a crash. -/
def consoleLines (c : Crash) : List String := header :: Lines.ofMessage c.message

end Crash

/-- Why an action failed. -/
inductive Failure where
  | diagnostic (d : Diagnostic)
  | crash (c : Crash)
  deriving DecidableEq, Repr

namespace Failure

/-- The failure as one text. -/
def display : Failure → String
  | diagnostic d => "compilation failed: " ++ d.display
  | crash c => "program crashed: " ++ c.display

/-- What the console shows of a failure. -/
def consoleLines : Failure → List String
  | diagnostic d => d.lines
  | crash c => c.consoleLines

end Failure

end Playground
