import Playground.Text.Lines

/-!
# Paths

Paths as text: names with slashes between them.

* `components` — the names of a path; `strictComponents` — with what a slash at the end asks for.
* `join` — a name below a directory.
* `resolve` — what a path names if there are no links: a single dot stays, two dots go up.
-/

set_option autoImplicit false

namespace Playground

namespace Path

/-- Whether a path starts at the root. -/
def isAbsolute (path : String) : Bool := path.toList.head? = some '/'

/-- Whether a path can only name a directory. -/
def endsInSlash (path : String) : Bool := path.toList.getLast? = some '/'

/-- The names of a path, single and double dots among them. -/
def components (path : String) : List String :=
  ((Text.Lines.cut '/' path.toList).filter (!·.isEmpty)).map String.ofList

/-- The names of a path; a slash at the end asks for a directory as a single dot behind it would. -/
def strictComponents (path : String) : List String :=
  if endsInSlash path then components path ++ ["."] else components path

/-- A path seen from a directory; an absolute path does not depend on it. -/
def join (directory path : String) : String :=
  if isAbsolute path then path
  else if endsInSlash directory then directory ++ path
  else directory ++ "/" ++ path

/-- One step from a place, given as names from the root on. The root has no parent but itself. -/
def step (place : List String) (name : String) : List String :=
  if name = "." then place
  else if name = ".." then place.dropLast
  else place ++ [name]

/-- The place that a path names, seen from another place. -/
def resolve (place : List String) (path : String) : List String :=
  (components path).foldl step (if isAbsolute path then [] else place)

/-- A place as an absolute path. -/
def render (place : List String) : String :=
  if place.isEmpty then "/" else String.join (place.map ("/" ++ ·))

/-- The last name of a path, if it names something by name. -/
def fileName? (path : String) : Option String :=
  match ((components path).reverse.dropWhile (· = ".")).head? with
  | some ".." => none
  | name => name

/-- The part of a name behind its last point. The point at the front of a name is no such point. -/
def ending? (name : String) : Option String :=
  let reversed := name.toList.reverse
  match reversed.dropWhile (· != '.') with
  | '.' :: _ :: _ => some (String.ofList (reversed.takeWhile (· != '.')).reverse)
  | _ => none

/-- The path without slashes and single dots at its end. -/
def dropEnd (path : String) : String :=
  let rec go : List Char → List Char
    | '/' :: rest => if rest.isEmpty then ['/'] else go rest
    | '.' :: '/' :: rest => go rest
    | reversed => reversed
  String.ofList (go path.toList.reverse).reverse

end Path

end Playground
