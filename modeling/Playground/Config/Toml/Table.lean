import Playground.Config.Setting

/-!
# Tables under construction

A TOML document says bit by bit what its tables hold, and each table may be spelled out in one way
only. A table under construction remembers in which way it came about.

* `assign` — a key with its value put into a table.
* `openTable`, `openElement` — what a header opens.
* `inSection` — a change to the table that a header opened.
-/

set_option autoImplicit false

namespace Playground.Config.Toml

/-- How a table came about. -/
inductive Origin where
  /-- The document itself, or the table of a header. -/
  | header
  /-- A table on the way to the one of a header. -/
  | implied
  /-- A table on the way of a key with points. -/
  | dotted
  /-- A table in braces. -/
  | inline
  deriving DecidableEq, Repr

/-- A value under construction. -/
inductive Node where
  /-- A finished value. -/
  | value (s : Setting)
  | table (origin : Origin) (entries : List (String × Node))
  /-- The tables of a header in double brackets, the newest first. -/
  | elements (newest : List (String × Node)) (older : List (List (String × Node)))

/-- A key: the names in front of its last point, and the last name. -/
structure Key where
  parents : List String
  name : String
  deriving DecidableEq, Repr

namespace Node

mutual

/-- The finished value. -/
def setting : Node → Setting
  | value s => s
  | table _ entries => .table (settings entries)
  | elements newest older => .list (inOrder [.table (settings newest)] older)

/-- The finished entries of a table. -/
def settings : List (String × Node) → List (String × Setting)
  | [] => []
  | (key, node) :: rest => (key, node.setting) :: settings rest

/-- The finished tables, the newest last, in front of those in `later`. -/
def inOrder (later : List Setting) : List (List (String × Node)) → List Setting
  | [] => later
  | entries :: rest => inOrder (.table (settings entries) :: later) rest

end

/-- The node under a key. -/
def lookup? (key : String) (entries : List (String × Node)) : Option Node := entries.lookup key

/-- The entries with the node under one key replaced, which is put last if it is new. -/
def insert (key : String) (node : Node) : List (String × Node) → List (String × Node)
  | [] => [(key, node)]
  | entry :: rest =>
    if entry.1 = key then (key, node) :: rest else entry :: insert key node rest

end Node

open Node

/-- The entries of a table. -/
abbrev Entries := List (String × Node)

/-- A change to a table; none if it is not permitted. -/
abbrev Change := Origin → Entries → Option (Origin × Entries)

/-- Changes the table at the end of a path. Tables that are missing are made with origin `made`. The
path goes on in tables of the origins that `passes` names, and in the newest of the tables in double
brackets; it does not lead through a finished value. -/
def along (made : Origin) (passes : Origin → Bool) (change : Change) :
    List String → Origin → Entries → Option (Origin × Entries)
  | [], origin, entries => change origin entries
  | name :: path, origin, entries =>
    match lookup? name entries with
    | none => do
      let (o, es) ← along made passes change path made []
      return (origin, insert name (.table o es) entries)
    | some (.table o es) =>
      if passes o then do
        let (o, es) ← along made passes change path o es
        return (origin, insert name (.table o es) entries)
      else none
    | some (.elements newest older) => do
      let (_, newest) ← along made passes change path .header newest
      return (origin, insert name (.elements newest older) entries)
    | some (.value _) => none

/-- Along the path of a header. Only a table in braces cannot be added to. -/
def alongHeader (change : Change) (path : List String) : Change :=
  along .implied (· != .inline) change path

/-- Along the path of a key, which adds to tables that have not been spelled out. -/
def alongKey (change : Change) (path : List String) : Change :=
  along .dotted (fun origin => origin = .implied || origin = .dotted) change path

/-- Adds an entry; a key stands for one value only. -/
def addEntry (name : String) (node : Node) : Change := fun origin entries =>
  match lookup? name entries with
  | none => some (origin, insert name node entries)
  | some _ => none

/-- Puts a value under a key. A key with points may only add to a table that keys with points have
made. -/
def assign (key : Key) (node : Node) : Change :=
  alongKey
    (fun origin entries =>
      if origin = .dotted ∨ key.parents = [] then addEntry key.name node origin entries else none)
    key.parents

/-- A table in braces with the given entries. -/
def inlineTable? (entries : List (Key × Node)) : Option Node := do
  let (_, entries) ← entries.foldlM (fun (o, es) (key, node) => assign key node o es) (.inline, [])
  return .table .inline entries

/-- Opens the table of a header, which must be new or implied. -/
def openTable (key : Key) : Change :=
  alongHeader
    (fun origin entries =>
      match lookup? key.name entries with
      | none => some (origin, insert key.name (.table .header []) entries)
      | some (.table .implied es) => some (origin, insert key.name (.table .header es) entries)
      | some _ => none)
    key.parents

/-- Opens one more of the tables of a header in double brackets. -/
def openElement (key : Key) : Change :=
  alongHeader
    (fun origin entries =>
      match lookup? key.name entries with
      | none => some (origin, insert key.name (.elements [] []) entries)
      | some (.elements newest older) =>
        some (origin, insert key.name (.elements [] (newest :: older)) entries)
      | some _ => none)
    key.parents

/-- What a line of a document says. -/
inductive Statement where
  | table (key : Key)
  | element (key : Key)
  | entry (key : Key) (node : Node)

/-- A document so far: its tables and the path of the table that entries go to. -/
structure Document where
  entries : Entries
  current : List String

namespace Document

def empty : Document := ⟨[], []⟩

/-- The document with one more statement. -/
def add (d : Document) : Statement → Option Document
  | .table key => do
    let (_, entries) ← openTable key .header d.entries
    return ⟨entries, key.parents ++ [key.name]⟩
  | .element key => do
    let (_, entries) ← openElement key .header d.entries
    return ⟨entries, key.parents ++ [key.name]⟩
  | .entry key node => do
    let (_, entries) ← alongHeader (assign key node) d.current .header d.entries
    return { d with entries }

/-- The document that consists of the given statements. -/
def ofStatements (statements : List Statement) : Option Document := statements.foldlM add .empty

/-- The entries of the outermost table. -/
def settings (d : Document) : List (String × Setting) := Node.settings d.entries

end Document

end Playground.Config.Toml
