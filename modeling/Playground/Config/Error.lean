import Playground.Config.Decode

/-!
# Errors of configurations

Why there is no configuration to work with.

* `ConfigError.message` — the error in words.
* `ConfigError.cause` — the words of the error underneath, if there is one.
-/

set_option autoImplicit false

namespace Playground

namespace Config

/-- Why there is no configuration to work with. -/
inductive ConfigError where
  /-- There is nothing at the path. -/
  | unreadable (path : String)
  /-- A text, or that of the file at a path, breaks the rules of its notation. -/
  | illFormed (path : Option String)
  /-- The settings of a text, or of the file at a path, are no configuration. -/
  | undecodable (e : DecodeError) (path : Option String)
  /-- The name of the file does not say what notation it is in. -/
  | unknownFormat (path : String)
  /-- There is no file of a known notation at the path. -/
  | noFile (path : String)
  | invalid (v : Violation)

namespace ConfigError

/-- Words for the file that something is in, if it is in one. -/
def inFile : Option String → String
  | some path => " in " ++ path
  | none => ""

/-- The words of the error underneath, if there is one. -/
def cause : ConfigError → Option String
  | unreadable _ => some "entity not found"
  | illFormed path => some ("the text is not well formed" ++ inFile path)
  | undecodable e path => some (e.message ++ if e.isTraced then inFile path else "")
  | unknownFormat path =>
    some ("configuration file " ++ Text.Quoted.quote path ++ " is not of a supported file format")
  | noFile path => some ("configuration file " ++ Text.Quoted.quote path ++ " not found")
  | invalid _ => none

/-- The error in words. -/
def message (e : ConfigError) : String :=
  match e with
  | unreadable path => "failed to read config file at " ++ path ++ ": " ++ e.cause.getD ""
  | invalid v => v.message
  | _ => "failed to parse config: " ++ e.cause.getD ""

end ConfigError

end Config

end Playground
