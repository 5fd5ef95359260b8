import Playground.Files.Path

/-!
# File trees

Directories, files and symbolic links.

* `Tree.walk` — where a path leads, links followed.
* `Tree.stat`, `Tree.read`, `Tree.write`, `Tree.makeDirectory`, `Tree.makeLink` — what can be done at
  a path.
* `Tree.canonicalize` — the place that a path names, found step by step from the root.
* `FileError` — why something cannot be done.
-/

set_option autoImplicit false

namespace Playground

namespace Files

/-- Why something cannot be done with files. -/
inductive FileError where
  | missing
  | denied
  | present
  | notDirectory
  | isDirectory
  | notEmpty
  | nameTooLong
  | linkLoop
  /-- A file that is no program. -/
  | notProgram
  /-- A path with a character that no path can hold. -/
  | badPath
  /-- An argument with a character that no argument can hold. -/
  | badArgument
  /-- Bytes that are not text. -/
  | notText
  /-- Any other error; one of the operating system has a number. -/
  | other (number : Option Nat) (words : String)
  deriving DecidableEq, Repr

namespace FileError

def words : FileError → String
  | missing => "No such file or directory"
  | denied => "Permission denied"
  | present => "File exists"
  | notDirectory => "Not a directory"
  | isDirectory => "Is a directory"
  | notEmpty => "Directory not empty"
  | nameTooLong => "File name too long"
  | linkLoop => "Too many levels of symbolic links"
  | notProgram => "Exec format error"
  | badPath => "file name contained an unexpected NUL byte"
  | badArgument => "nul byte found in provided data"
  | notText => "stream did not contain valid UTF-8"
  | other _ words => words

/-- The number of an error of the operating system. -/
def number? : FileError → Option Nat
  | missing => some 2
  | notProgram => some 8
  | denied => some 13
  | present => some 17
  | notDirectory => some 20
  | isDirectory => some 21
  | nameTooLong => some 36
  | notEmpty => some 39
  | linkLoop => some 40
  | other number _ => number
  | badPath | badArgument | notText => none

/-- The error in words, with its number if it has one. -/
def message (e : FileError) : String :=
  match e.number? with
  | some n => e.words ++ " (os error " ++ toString n ++ ")"
  | none => e.words

end FileError

/-- A place in a tree: the names that lead there from the root, none of them a link. -/
abbrev Place := List String

/-- What can be at a place. -/
inductive Entry where
  | directory
  | file (bytes : List UInt8) (executable : Bool)
  /-- A program of the system, known by name. -/
  | tool (name : String)
  /-- A device that holds nothing and swallows everything. -/
  | null
  | link (target : String)
  deriving DecidableEq, Repr

namespace Entry

/-- Whether the entry is an ordinary file. -/
def isFile : Entry → Bool
  | file .. | tool _ => true
  | _ => false

def isDirectory : Entry → Bool
  | directory => true
  | _ => false

/-- Whether the entry can be run. -/
def isExecutable : Entry → Bool
  | file _ executable => executable
  | tool _ => true
  | _ => false

/-- What is in a file. -/
def bytes : Entry → List UInt8
  | file bytes _ => bytes
  | _ => []

end Entry

/-- A tree of entries. The root is not among them and always a directory. -/
structure Tree where
  entries : List (Place × Entry)
  deriving Repr

/-- Where a path leads. -/
inductive Target where
  | found (place : Place) (entry : Entry)
  /-- There is nothing of this name in an existing directory. -/
  | vacant (directory : Place) (name : String)
  deriving DecidableEq, Repr

namespace Tree

def empty : Tree := ⟨[]⟩

/-- What is at a place. -/
def find? (t : Tree) (place : Place) : Option Entry :=
  if place = [] then some .directory else t.entries.lookup place

/-- The tree with another entry at a place. -/
def put (t : Tree) (place : Place) (entry : Entry) : Tree :=
  ⟨(place, entry) :: t.entries.filter (·.1 != place)⟩

/-- The tree without a place and all that is below it. -/
def erase (t : Tree) (place : Place) : Tree := ⟨t.entries.filter (!place.isPrefixOf ·.1)⟩

/-- The names in a directory, in ascending order. -/
def children (t : Tree) (place : Place) : List String :=
  let names := t.entries.filterMap fun (p, _) =>
    if p.dropLast = place then p.getLast? else none
  names.mergeSort fun a b => decide (a ≤ b)

/-- Greatest length of a name, in bytes. -/
def longestName : Nat := 255

/-- Paths are shorter than this, in bytes. -/
def pathBound : Nat := 4096

/-- Number of links that are followed on the way of one path. -/
def linkLimit : Nat := 40

/-- Where names lead from a directory. Links on the way are followed, one in the last place only if
`follow` says so. Where the target of a link ends in a slash, it has to be a directory. -/
def walk (t : Tree) (follow : Bool) (links : Nat) (here : Place) (names : List String) :
    Except FileError Target :=
  match names with
  | [] => .ok (.found here .directory)
  | name :: rest =>
    if name = "." then walk t follow links here rest
    else if name = ".." then walk t follow links here.dropLast rest
    else if longestName < name.utf8ByteSize then .error .nameTooLong
    else
      let place := here ++ [name]
      match t.find? place with
      | none => if rest = [] then .ok (.vacant here name) else .error .missing
      | some .directory => walk t follow links place rest
      | some (.link target) =>
        if rest = [] ∧ !follow then .ok (.found place (.link target))
        else
          match links with
          | 0 => .error .linkLoop
          | links + 1 =>
            walk t follow links (if Path.isAbsolute target then [] else here)
              (Path.strictComponents target ++ rest)
      | some entry => if rest = [] then .ok (.found place entry) else .error .notDirectory
termination_by (links, names.length)

/-- Where a path leads from a directory. A path that ends in a slash names a directory, and a link in
front of it is followed. -/
def locate (t : Tree) (follow : Bool) (here : Place) (path : String) : Except FileError Target :=
  if path.toList.contains '\x00' then .error .badPath
  else if path = "" then .error .missing
  else if pathBound ≤ path.utf8ByteSize then .error .nameTooLong
  else do
    let start := if Path.isAbsolute path then [] else here
    let slash := Path.endsInSlash path
    match ← t.walk (follow || slash) linkLimit start (Path.components path) with
    | .found place entry =>
      if slash && !entry.isDirectory then throw .notDirectory else return .found place entry
    | target => return target

/-- What a path names, links followed. -/
def stat (t : Tree) (here : Place) (path : String) : Except FileError (Place × Entry) := do
  match ← t.locate true here path with
  | .found place entry => return (place, entry)
  | .vacant .. => throw .missing

/-- What a path names; a link is not followed. -/
def statLink (t : Tree) (here : Place) (path : String) : Except FileError (Place × Entry) := do
  match ← t.locate false here path with
  | .found place entry => return (place, entry)
  | .vacant .. => throw .missing

/-- What is left of a tree if everything is named by its path from the root: some of those paths are
longer than paths can be. -/
def nameable (t : Tree) : Tree :=
  ⟨t.entries.filter fun e => decide ((Path.render e.1).utf8ByteSize < pathBound)⟩

/-- The place of what a path names, links followed. On the way every name is looked up by its path
from the root, so a path that leads through a place too deep for that has none, though it can be
shorter itself. Other reasons why there is none are not in the tree. -/
def canonicalize (t : Tree) (here : Place) (path : String) : Except FileError Place := do
  let _ ← t.stat here path
  match t.nameable.stat here path with
  | .ok (place, _) => return place
  | .error _ => throw .nameTooLong

/-- The content of the file at a path. -/
def read (t : Tree) (here : Place) (path : String) : Except FileError (List UInt8) := do
  let (_, entry) ← t.stat here path
  if entry.isDirectory then throw .isDirectory else return entry.bytes

/-- The place of the file to be written at a path, which is made if it is not there. -/
def openForWriting (t : Tree) (here : Place) (path : String) : Except FileError (Tree × Place) := do
  if Path.endsInSlash path then
    match t.locate true here path with
    | .ok _ | .error .notDirectory => throw .isDirectory
    | .error e => throw e
  match ← t.locate true here path with
  | .found place entry =>
    if entry.isDirectory then throw .isDirectory else return (t, place)
  | .vacant directory name =>
    let place := directory ++ [name]
    return (t.put place (.file [] false), place)

/-- The tree with other bytes in the file at a place. Devices swallow what is written. -/
def setBytes (t : Tree) (place : Place) (bytes : List UInt8) : Tree :=
  match t.find? place with
  | some (.file _ executable) => t.put place (.file bytes executable)
  | some (.tool _) => t.put place (.file bytes true)
  | _ => t

/-- Writes a file. -/
def write (t : Tree) (here : Place) (path : String) (bytes : List UInt8) :
    Except FileError Tree := do
  let (t, place) ← t.openForWriting here path
  return t.setBytes place bytes

/-- A vacant place for a new entry. -/
def vacancy (t : Tree) (here : Place) (path : String) : Except FileError Place := do
  match ← t.locate false here path with
  | .found .. => throw .present
  | .vacant directory name => return directory ++ [name]

def makeDirectory (t : Tree) (here : Place) (path : String) : Except FileError Tree := do
  return t.put (← t.vacancy here path) .directory

/-- Makes a symbolic link. -/
def makeLink (t : Tree) (here : Place) (target path : String) : Except FileError Tree := do
  return t.put (← t.vacancy here path) (.link target)

end Tree

end Files

end Playground
