import Playground.Files.Tree
import Playground.Text.Lines
import Playground.Text.Utf8

/-!
# Processes

What is known of a program that was started and has ended: how it ended and what it wrote.

* `Launcher` — a way to start programs.
* `Report.failurePayload` — what a compiler that failed has to say.
-/

set_option autoImplicit false

namespace Playground

namespace Compiler

open Files Text

/-- How a program ended. -/
inductive Status where
  | exited (code : Nat)
  | signalled (number : Nat)
  /-- A signal ended the program, and an image of its memory was kept. -/
  | dumped (number : Nat)
  deriving DecidableEq, Repr

namespace Status

/-- The names of the signals, from the first on. -/
def signalNames : List String :=
  ["SIGHUP", "SIGINT", "SIGQUIT", "SIGILL", "SIGTRAP", "SIGABRT", "SIGBUS", "SIGFPE", "SIGKILL",
    "SIGUSR1", "SIGSEGV", "SIGUSR2", "SIGPIPE", "SIGALRM", "SIGTERM", "SIGSTKFLT", "SIGCHLD",
    "SIGCONT", "SIGSTOP", "SIGTSTP", "SIGTTIN", "SIGTTOU", "SIGURG", "SIGXCPU", "SIGXFSZ",
    "SIGVTALRM", "SIGPROF", "SIGWINCH", "SIGIO", "SIGPWR", "SIGSYS"]

def signalName (number : Nat) : String :=
  match number with
  | 0 => ""
  | n + 1 =>
    match signalNames[n]? with
    | some name => " (" ++ name ++ ")"
    | none => ""

def isSuccess (s : Status) : Bool := s = exited 0

/-- The end of a program in words. -/
def display : Status → String
  | exited code => "exit status: " ++ toString code
  | signalled number => "signal: " ++ toString number ++ signalName number
  | dumped number => "signal: " ++ toString number ++ signalName number ++ " (core dumped)"

end Status

/-- A program to be started. -/
structure Invocation where
  /-- The path of the program, seen from where it works. -/
  program : String
  arguments : List String
  /-- Where the program works. -/
  directory : Place
  environment : List (String × String)

/-- What a program leaves behind. -/
structure Report where
  status : Status
  /-- What it wrote to its standard output. -/
  output : List UInt8
  /-- What it wrote to its standard error. -/
  errors : List UInt8
  /-- The files as they are now. -/
  tree : Tree

namespace Report

def exitText (s : Status) : String := "compiler exited with " ++ s.display

/-- The first of two outputs that is not blank; if both are, the way in which the program ended. -/
def choosePayload (errors output : List Char) (status : Status) : String :=
  if !Lines.isBlank errors then String.ofList errors
  else if !Lines.isBlank output then String.ofList output
  else exitText status

/-- What a compiler that failed has to say. -/
def failurePayload (r : Report) : String :=
  choosePayload (Utf8.decodeLossy r.errors) (Utf8.decodeLossy r.output) r.status

end Report

/-- A way to start programs, which has no input for them. -/
abbrev Launcher := Tree → Invocation → Except FileError Report

end Compiler

end Playground
