import Playground.Files.Tree
import Playground.Shell.Pattern
import Playground.Shell.Script
import Playground.Text.Digits

/-!
# The state of a shell

What running scripts change: the files, the streams that descriptors lead to, and the shell's own
parameters.

* `World` — what all shells share; `Env` — what each has of its own.
* `Run` — a computation on both, which may be left early by a `Jump`.
* `fields` — the fields that an expanded word falls into.
-/

set_option autoImplicit false

namespace Playground.Shell

open Files

/-- What a descriptor leads to. -/
inductive Stream where
  /-- Text to be read. -/
  | source (left : Raw) (isFile : Bool)
  /-- Text that was written, the last part first. -/
  | sink (written : List Raw)
  /-- The end of a file. -/
  | file (place : Place)
  /-- A device that swallows everything. -/
  | null

/-- What all shells share. -/
structure World where
  tree : Tree
  streams : Array Stream

structure Variable where
  value : Raw
  exported : Bool

/-- What each shell has of its own. -/
structure Env where
  /-- The name of the script. -/
  name : Raw
  arguments : List Raw
  bindings : List (Raw × Variable)
  functions : List (Raw × Command)
  here : Place
  /-- The stream of each descriptor. -/
  descriptors : List (Nat × Nat)
  status : Nat
  /-- The status of the last script whose output was put into the present command. -/
  outputStatus : Option Nat
  /-- The line of the present command. -/
  line : Nat
  exitOnError : Bool
  failOnUnset : Bool
  /-- Whether failures are looked at by a condition. -/
  guarded : Bool
  /-- What is to be done on signals, and on the end, which has number zero. -/
  traps : List (Nat × Raw)

/-- A way to leave a computation early. -/
inductive Jump where
  | leave (status : Nat)
  | signal (number : Nat)
  | breakLoop (levels : Nat)
  | nextTurn (levels : Nat)
  | giveBack
  /-- The budget is used up. -/
  | exhausted

structure State where
  world : World
  env : Env

abbrev Run := ExceptT Jump (StateM State)

/-! ## Streams -/

/-- Opens a stream and gives its number. -/
def openStream (s : Stream) : Run Nat := do
  let state ← get
  set { state with world := { state.world with streams := state.world.streams.push s } }
  return state.world.streams.size

def setStream (n : Nat) (s : Stream) : Run Unit :=
  modify fun state =>
    { state with world := { state.world with streams := state.world.streams.setIfInBounds n s } }

/-- The number of the stream that a descriptor leads to. -/
def streamOf (fd : Nat) : Run (Option Nat) := return (← get).env.descriptors.lookup fd

/-- The descriptors with one of them leading elsewhere, or nowhere. -/
def leadTo (descriptors : List (Nat × Nat)) (fd : Nat) (stream : Option Nat) : List (Nat × Nat) :=
  let others := descriptors.filter (·.1 != fd)
  match stream with
  | some n => (fd, n) :: others
  | none => others

def setDescriptor (fd : Nat) (stream : Option Nat) : Run Unit :=
  modify fun s =>
    { s with env := { s.env with descriptors := leadTo s.env.descriptors fd stream } }

/-- Puts text at the end of a file. -/
def appendTo (tree : Tree) (place : Place) (text : Raw) : Tree :=
  match tree.find? place with
  | some (.file bytes executable) => tree.put place (.file (bytes ++ Raw.toBytes text) executable)
  | _ => tree

/-- Writes text to a descriptor. -/
def writeTo (fd : Nat) (text : Raw) : Run Unit := do
  match ← streamOf fd with
  | none => return ()
  | some n =>
    match (← get).world.streams[n]? with
    | some (.sink written) => setStream n (.sink (text :: written))
    | some (.file place) =>
      modify fun s => { s with world := { s.world with tree := appendTo s.world.tree place text } }
    | _ => return ()

/-- All text that is left to be read from a descriptor, and whether it is from a file. -/
def inputOf (fd : Nat) : Run (Raw × Bool) := do
  match ← streamOf fd with
  | none => return ([], false)
  | some n =>
    match (← get).world.streams[n]? with
    | some (.source left isFile) => return (left, isFile)
    | _ => return ([], false)

/-- Leaves only the given text to be read from a descriptor. -/
def setInput (fd : Nat) (left : Raw) : Run Unit := do
  match ← streamOf fd with
  | none => return ()
  | some n =>
    match (← get).world.streams[n]? with
    | some (.source _ isFile) => setStream n (.source left isFile)
    | _ => return ()

/-- What was written to a stream. -/
def written (n : Nat) : Run Raw := do
  match (← get).world.streams[n]? with
  | some (.sink parts) => return parts.reverse.flatten
  | _ => return []

/-! ## Parameters -/

def modifyEnv (f : Env → Env) : Run Unit := modify fun s => { s with env := f s.env }

def setStatus (status : Nat) : Run Unit := modifyEnv fun e => { e with status }

def setTree (tree : Tree) : Run Unit :=
  modify fun s => { s with world := { s.world with tree } }

/-- Sets a variable, which stays exported if it was. -/
def Env.assign (e : Env) (name : Raw) (value : Raw) : Env :=
  let exported := (e.bindings.lookup name).any (·.exported)
  { e with bindings := (name, ⟨value, exported⟩) :: e.bindings.filter (·.1 != name) }

/-- Exports a variable, if it is set. -/
def Env.export (e : Env) (name : Raw) : Env :=
  { e with
    bindings := e.bindings.map fun (n, v) =>
      if n = name then (n, { v with exported := true }) else (n, v) }

def Env.unset (e : Env) (name : Raw) : Env :=
  { e with
    bindings := e.bindings.filter (·.1 != name)
    functions := e.functions.filter (·.1 != name) }

/-- The number that a shell goes by. -/
def processNumber : Nat := 4242

/-- The value of a parameter, if it is set. -/
def Env.value? (e : Env) (name : Raw) : Option Raw :=
  match name with
  | ['#'] => some (Raw.ofNat e.arguments.length)
  | ['?'] => some (Raw.ofNat e.status)
  | ['$'] => some (Raw.ofNat processNumber)
  | ['!'] => none
  | ['-'] => some (if e.exitOnError then ['e'] else [])
  | ['@'] | ['*'] => if e.arguments.isEmpty then none else some ([' '].intercalate e.arguments)
  | ['0'] => some e.name
  | name =>
    match Text.Digits.value? 10 name with
    | some n => e.arguments[n - 1]?
    | none => (e.bindings.lookup name).map Variable.value

/-- The characters that separate fields. -/
def Env.separators (e : Env) : Raw := (e.value? "IFS".toList).getD [' ', '\t', '\n']

/-- Where programs are looked for without a search path. -/
def defaultPath : String := "/usr/local/sbin:/usr/local/bin:/usr/sbin:/usr/bin:/sbin:/bin"

/-- Writes a message about the present command to the errors. -/
def report (message : String) : Run Unit := do
  let e := (← get).env
  writeTo 2 (e.name ++ Raw.ofString (": " ++ toString e.line ++ ": " ++ message ++ "\n"))

/-- Writes a message and leaves the shell. -/
def abort {α : Type} (message : String) : Run α := do
  report message
  throw (.leave 2)

/-! ## Fields -/

/-- Where a character of an expanded word comes from. -/
inductive Ink where
  /-- From the script. -/
  | literal
  /-- From an expansion that is not quoted, which falls into fields. -/
  | expanded
  | quoted
  deriving DecidableEq, Repr

/-- A part of an expanded word. -/
inductive Item where
  | char (c : Char) (ink : Ink)
  /-- Makes a field of what has no characters. -/
  | mark
  /-- Ends a field. -/
  | cut
  deriving DecidableEq, Repr

def items (text : Raw) (ink : Ink) : List Item := text.map (.char · ink)

def isWhite (c : Char) : Bool := c = ' ' || c = '\t' || c = '\n'

/-- The fields that items fall into. The present one is held in reverse, if it has begun;
`separated` says that blanks have ended one and a separator may still belong to them. -/
def fieldsFrom (separators : Raw) (present : Option Marked) (separated : Bool) :
    List Item → List Marked
  | [] => (present.map List.reverse).toList
  | .mark :: rest => fieldsFrom separators (some (present.getD [])) false rest
  | .cut :: rest => (present.map List.reverse).toList ++ fieldsFrom separators none false rest
  | .char c ink :: rest =>
    if ink = .expanded && separators.contains c then
      if isWhite c then
        (present.map List.reverse).toList ++
          fieldsFrom separators none (separated || present.isSome) rest
      else if separated then fieldsFrom separators none false rest
      else (present.getD []).reverse :: fieldsFrom separators none false rest
    else fieldsFrom separators (some ((c, ink = .quoted) :: present.getD [])) false rest

def fields (separators : Raw) (items : List Item) : List Marked :=
  fieldsFrom separators none false items

/-- The characters of items that do not fall into fields. -/
def joinItems : List Item → Marked
  | [] => []
  | .char c ink :: rest => (c, ink = .quoted) :: joinItems rest
  | .mark :: rest => joinItems rest
  | .cut :: rest => (' ', true) :: joinItems rest

def plainText (m : Marked) : Raw := m.map (·.1)

/-! ## File names -/

/-- The paths that the parts of a pattern fit, below a directory. A name that begins with a point is
only fit by a pattern that does. -/
def expandParts (tree : Tree) (here : Place) (before : Raw) : List Marked → List Raw
  | [] => [before]
  | part :: rest =>
    let join (name : Raw) : Raw :=
      if before.isEmpty || before.getLast? = some '/' then before ++ name else before ++ '/' :: name
    let pattern := Pattern.ofMarked part
    if !Pattern.isWild pattern then
      let path := join (plainText part)
      let isThere := (tree.statLink here (Raw.toString path)).toOption.isSome
      if isThere then expandParts tree here path rest else []
    else
      match tree.stat here (if before.isEmpty then "." else Raw.toString before) with
      | .ok (place, .directory) =>
        let names := ((tree.children place).map Raw.ofString).filter fun name =>
          Pattern.fits pattern name &&
            (name.head? != some '.' || part.head?.map (·.1) = some '.')
        names.flatMap fun name => expandParts tree here (join name) rest
      | _ => []

/-- The paths that a field stands for: those it fits as a pattern, or else the field itself. -/
def paths (tree : Tree) (here : Place) (field : Marked) : List Raw :=
  if !Pattern.isWild (Pattern.ofMarked field) then [plainText field]
  else
    let slashes := field.map fun (c, q) => if c = '/' then (c, false) else (c, q)
    let parts := (Text.Lines.cut ('/', false) slashes).filter (!·.isEmpty)
    let start := if field.head?.map (·.1) = some '/' then ['/'] else []
    match (expandParts tree here start parts).mergeSort Raw.le with
    | [] => [plainText field]
    | found => found

end Playground.Shell
