import Playground.Shell.Raw

/-!
# Scripts

The commands that a script is made of, as they are after reading and before any expansion.

* `Piece` — the parts of a word.
* `Command` — simple and compound commands.
-/

set_option autoImplicit false

namespace Playground.Shell

/-- What is wanted of a parameter. -/
inductive Use where
  | value
  | length
  /-- Another word if the parameter is not set, or not set to anything. -/
  | orElse (empty : Bool) (word : Raw)
  /-- Another word, which the parameter is set to. -/
  | orAssign (empty : Bool) (word : Raw)
  /-- Another word if the parameter is set, or set to something. -/
  | ifSet (empty : Bool) (word : Raw)
  /-- An error if the parameter is not set, or not set to anything. -/
  | orFail (empty : Bool) (word : Raw)
  /-- The value without what a pattern matches at its start. -/
  | trimStart (longest : Bool) (pattern : Raw)
  /-- The value without what a pattern matches at its end. -/
  | trimEnd (longest : Bool) (pattern : Raw)
  deriving DecidableEq, Repr

/-- A part of a word. -/
inductive Piece where
  | text (s : Raw) (quoted : Bool)
  | parameter (name : Raw) (use : Use) (quoted : Bool)
  /-- The output of a script. -/
  | output (script : Raw) (quoted : Bool)
  /-- The value of an arithmetic expression. -/
  | arithmetic (expression : Raw) (quoted : Bool)
  deriving DecidableEq, Repr

abbrev Word := List Piece

/-- Where a descriptor is to lead. -/
inductive Redirection where
  | input (fd : Nat) (path : Word)
  | output (fd : Nat) (path : Word)
  | append (fd : Nat) (path : Word)
  /-- Where another descriptor leads; nowhere for a dash. -/
  | same (fd : Nat) (other : Word)
  /-- To text that stands in the script. -/
  | here (fd : Nat) (text : Word)
  deriving DecidableEq, Repr

/-- A command. The line is that on which it begins. -/
inductive Command where
  | nothing
  | simple (line : Nat) (assignments : List (Raw × Word)) (words : List Word)
      (redirections : List Redirection)
  | redirected (line : Nat) (body : Command) (redirections : List Redirection)
  | pipeline (stages : List Command)
  | negated (body : Command)
  | both (first second : Command)
  | either (first second : Command)
  | sequence (first second : Command)
  | background (body : Command)
  | subshell (body : Command)
  | choice (condition body otherwise : Command)
  /-- Runs the body as long as the condition succeeds, or as long as it fails. -/
  | loop (succeeds : Bool) (condition body : Command)
  /-- Runs the body for each word, or for each argument of the script. -/
  | each (name : Raw) (words : Option (List Word)) (body : Command)
  | select (word : Word) (arms : List (List Word × Command))
  | define (name : Raw) (body : Command)

end Playground.Shell
