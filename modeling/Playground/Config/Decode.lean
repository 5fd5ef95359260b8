import Playground.Config.Basic
import Playground.Config.Setting
import Playground.Text.Decimal
import Playground.Text.Quoted

/-!
# From settings to a configuration

Reads the tables of a configuration file. Scalars are taken for each other where that is possible: a
number may stand for a text, and a text of digits for a number. A table with fixed keys may also be
a list of their values.

* `DecodeError` — why settings are no configuration; `DecodeError.message` says it.
* `toText`, `toNatural`, `toNatural32` — the scalars that are wanted.
* `decode` — the configuration.
-/

set_option autoImplicit false

namespace Playground.Config

open Text

/-- Where a value stands: keys and places in brackets, from the outermost on. -/
abbrev Place := List String

/-- A place as text: points stand in front of keys, but not of brackets. -/
def Place.render : Place → String
  | [] => ""
  | part :: rest =>
    let inner := Place.render rest
    if inner = "" ∨ inner.startsWith "[" then part ++ inner else part ++ "." ++ inner

/-- What is wanted of a value with parts. -/
inductive Shape where
  | compiler
  | sandbox
  | limits
  | console
  | arguments
  | environment
  deriving DecidableEq, Repr

def Shape.display : Shape → String
  | compiler => "struct CompilerConfig"
  | sandbox => "struct SandboxConfig"
  | limits => "struct SandboxLimits"
  | console => "struct ConsoleConfig"
  | arguments => "a sequence"
  | environment => "a map"

/-- Why settings are no configuration. -/
inductive DecodeError where
  /-- A value that must be given is not. -/
  | missing (place : Place)
  | notText (found : Setting) (place : Place)
  | notNumber (found : Setting) (place : Place)
  | negative (n : Int) (place : Place)
  /-- A number of more than 32 bits. -/
  | tooLarge (n : Nat) (place : Place)
  | wrongShape (found : Setting) (wanted : Shape) (place : Place)
  /-- A list that stands for the table of the compiler and is too short. -/
  | tooShort (count : Nat) (place : Place)

/-- A number with a point, unless it is infinite or none at all. -/
def pointed (x : Float) : String :=
  let text := Decimal.ofFloat x
  if x.isFinite ∧ !text.contains '.' then text ++ ".0" else text

/-- What was found in place of what was wanted. -/
def Setting.describe : Setting → String
  | null => "unit value"
  | bool b => if b then "boolean `true`" else "boolean `false`"
  | integer n => "integer `" ++ toString n ++ "`"
  | float x => "floating point `" ++ pointed x ++ "`"
  | text s => "string " ++ Quoted.quote s
  | list _ => "sequence"
  | table _ => "map"

namespace DecodeError

/-- A value of the wrong type at a place. -/
def mismatch (found wanted : String) (place : Place) : String :=
  "invalid type: " ++ found ++ ", expected " ++ wanted ++ " for key `" ++ place.render ++ "`"

/-- The error in words. -/
def message : DecodeError → String
  | missing place => "missing configuration field " ++ Quoted.quote place.render
  | notText found place => mismatch found.describe "a string" place
  | notNumber found place => mismatch found.describe "an integer" place
  | negative n place =>
    mismatch ("64-bit integer `" ++ toString n ++ "`") "an unsigned 64 bit or less integer" place
  | tooLarge n place =>
    mismatch ("64-bit unsigned integer `" ++ toString n ++ "`") "an unsigned 32 bit integer" place
  | wrongShape found wanted place => mismatch found.describe wanted.display place
  | tooShort count place =>
    "invalid length " ++ toString count ++ ", expected struct CompilerConfig with 4 elements" ++
      " for key `" ++ place.render ++ "`"

/-- Whether the part of a place is a place in a list. -/
def isBracketed (part : String) : Bool := part.startsWith "["

/-- Whether a value is known to come from one file. A table that is not in a list does not, since
tables are put together. -/
def isPlaced (found : Setting) (place : Place) : Bool :=
  match found with
  | .table _ => place.any isBracketed
  | _ => true

/-- Whether the error is about one scalar, and one that is known to come from a file. -/
def isTraced : DecodeError → Bool
  | notText found place | notNumber found place => isPlaced found place
  | negative _ _ | tooLarge _ _ => true
  | missing _ | wrongShape _ _ _ | tooShort _ _ => false

end DecodeError

/-- A value and where it stands. -/
structure Located where
  value : Setting
  place : Place

/-- A reader of one kind of value. -/
abbrev Decoder (α : Type) := Located → Except DecodeError α

/-! ## Scalars -/

def boolText (b : Bool) : String := if b then "true" else "false"

/-- A text, or a scalar written as text. -/
def toText : Decoder String := fun v =>
  match v.value with
  | .text s => .ok s
  | .bool b => .ok (boolText b)
  | .integer n => .ok (toString n)
  | .float x => .ok (Decimal.ofFloat x)
  | found => .error (.notText found v.place)

/-- Numbers are less than this. -/
def wordBound : Nat := Nat.pow 2 64

/-- The number that a text stands for: one for yes, zero for no, and otherwise its digits, with a
plus sign perhaps. Capital letters do not matter. -/
def wordOf? (text : String) : Option Nat :=
  let text := text.toLower
  if text = "true" ∨ text = "on" ∨ text = "yes" then some 1
  else if text = "false" ∨ text = "off" ∨ text = "no" then some 0
  else
    let digits := match text.toList with
      | '+' :: digits => digits
      | digits => digits
    match Digits.value? 10 digits with
    | some n => if n < wordBound then some n else none
    | none => none

/-- A natural number. Fractions are rounded, a half away from zero, and what is out of range goes to
the nearest bound. -/
def toNatural : Decoder Nat := fun v =>
  match v.value with
  | .integer n => if 0 ≤ n then .ok n.toNat else .error (.negative n v.place)
  | .bool b => .ok (if b then 1 else 0)
  | .float x => .ok x.round.toUInt64.toNat
  | .text s =>
    match wordOf? s with
    | some n => .ok n
    | none => .error (.notNumber v.value v.place)
  | found => .error (.notNumber found v.place)

/-- A natural number of 32 bits. -/
def toNatural32 : Decoder Nat := fun v => do
  let n ← toNatural v
  if n < Nat.pow 2 32 then return n else throw (.tooLarge n v.place)

/-- A value that may be left out; null leaves it out too. -/
def optional {α : Type} (decoder : Decoder α) : Option Located → Except DecodeError (Option α)
  | none => .ok none
  | some ⟨.null, _⟩ => .ok none
  | some v => some <$> decoder v

/-- A value that has a default. -/
def withDefault {α : Type} (value : α) (decoder : Decoder α) :
    Option Located → Except DecodeError α
  | none => .ok value
  | some v => decoder v

/-! ## Values with parts -/

/-- The items of a list with their places. -/
def located (place : Place) (items : List Setting) : List Located :=
  items.mapIdx fun i item => ⟨item, place ++ ["[" ++ toString i ++ "]"]⟩

/-- The parts of a value with fixed keys, by name or in order. -/
inductive Fields where
  | named (entries : List (String × Setting)) (place : Place)
  | ordered (items : List Located)

/-- The parts of a value of the given shape. -/
def Fields.of (shape : Shape) (v : Located) : Except DecodeError Fields :=
  match v.value with
  | .table entries => .ok (.named entries v.place)
  | .list items => .ok (.ordered (located v.place items))
  | found => .error (.wrongShape found shape v.place)

/-- The part with a key, which stands at the given number in a list. -/
def Fields.get? (number : Nat) (key : String) : Fields → Option Located
  | named entries place => (entries.lookup key).map (⟨·, place ++ [key]⟩)
  | ordered items => items[number]?

/-- The error of a part of the compiler's table that is missing. -/
def Fields.lacking (key : String) (place : Place) : Fields → DecodeError
  | named _ _ => .missing (place ++ [key])
  | ordered items => .tooShort items.length place

/-- A list of arguments. -/
def toArguments : Decoder (List String) := fun v =>
  match v.value with
  | .list items => (located v.place items).mapM toText
  | found => .error (.wrongShape found .arguments v.place)

/-- Names and values of environment variables, in ascending order of the names. -/
def toEnvironment : Decoder (List (String × String)) := fun v => do
  match v.value with
  | .table entries =>
    let env ← entries.mapM fun (key, value) => do
      return (key, ← toText ⟨value, v.place ++ [key]⟩)
    return env.mergeSort fun a b => decide (a.1 ≤ b.1)
  | found => throw (.wrongShape found .environment v.place)

/-- Requires a part of the compiler's table. -/
def given {α : Type} (fields : Fields) (key : String) (place : Place) :
    Option α → Except DecodeError α
  | some a => .ok a
  | none => .error (fields.lacking key place)

/-- The settings of the compiler. That a value is missing shows only after all others are read. -/
def toCompiler : Decoder CompilerConfig := fun v => do
  let fields ← Fields.of .compiler v
  let command ← (fields.get? 0 "command").mapM toArguments
  let sourceName ← (fields.get? 1 "source_name").mapM toText
  let outputName ← (fields.get? 2 "output_name").mapM toText
  let env ← withDefault [] toEnvironment (fields.get? 3 "env")
  return {
    command := ← given fields "command" v.place command
    sourceName := ← given fields "source_name" v.place sourceName
    outputName := ← given fields "output_name" v.place outputName
    env }

def toLimits : Decoder Limits := fun v => do
  let fields ← Fields.of .limits v
  return {
    maxMemoryPages := ← optional toNatural32 (fields.get? 0 "max_memory_pages")
    maxOutputLines := ← optional toNatural (fields.get? 1 "max_output_lines") }

def toSandbox : Decoder SandboxConfig := fun v => do
  let fields ← Fields.of .sandbox v
  return {
    space := ← withDefault SandboxConfig.default.space toText (fields.get? 0 "namespace")
    entryPoint := ← optional toText (fields.get? 1 "entry_point")
    limits := ← withDefault .unlimited toLimits (fields.get? 2 "limits") }

def toConsole : Decoder ConsoleConfig := fun v => do
  let fields ← Fields.of .console v
  return { historyLimit := ← optional toNatural (fields.get? 0 "history_limit") }

/-- The configuration that settings stand for. Other keys do not matter. -/
def decode (settings : List (String × Setting)) : Except DecodeError Config := do
  let fields := Fields.named settings []
  let compiler ← (fields.get? 0 "compiler").mapM toCompiler
  let sandbox ← withDefault .default toSandbox (fields.get? 1 "sandbox")
  let console ← withDefault .default toConsole (fields.get? 2 "console")
  return { compiler := ← given fields "compiler" [] compiler, sandbox, console }

end Playground.Config
