import Playground.Text.Digits

/-!
# Settings

What a configuration file holds, whatever notation it is written in: a tree of scalars, lists and
tables.

* `Setting.overlay` — a value laid over another; tables are merged key by key.
* `Path.ofKey` — a key of the outermost table names a place by a path, such as `compiler.env`.
* `Setting.put` — a value laid over the one at a path.
-/

set_option autoImplicit false

namespace Playground.Config

/-- A value in a configuration. -/
inductive Setting where
  | null
  | bool (b : Bool)
  | integer (n : Int)
  | float (x : Float)
  | text (s : String)
  | list (items : List Setting)
  | table (entries : List (String × Setting))
  deriving Repr

namespace Setting

/-- The entries of a table; none of another value. -/
def entries : Setting → List (String × Setting)
  | table entries => entries
  | _ => []

/-- The items of a list; none of another value. -/
def items : Setting → List Setting
  | list items => items
  | _ => []

/-- The value under a key, or null. -/
def lookup (key : String) (entries : List (String × Setting)) : Setting :=
  (entries.lookup key).getD null

/-- The entries with the value under one key replaced, which is put last if it is new. -/
def insert (key : String) (value : Setting) :
    List (String × Setting) → List (String × Setting)
  | [] => [(key, value)]
  | entry :: rest =>
    if entry.1 = key then (key, value) :: rest else entry :: insert key value rest

mutual

/-- An incoming value laid over the present one. A table is merged into a table; any other value
takes the place of what was there. -/
def overlay (present : Setting) : Setting → Setting
  | table incoming => table (overlayEntries present.entries incoming)
  | incoming => incoming

/-- The entries of a table with incoming ones laid over them. -/
def overlayEntries (present : List (String × Setting)) :
    List (String × Setting) → List (String × Setting)
  | [] => present
  | (key, value) :: rest =>
    overlayEntries (insert key (overlay (lookup key present) value) present) rest

end

end Setting

/-! ## Paths -/

/-- One step of a path. -/
inductive Step where
  | key (name : String)
  /-- A place in a list; a negative one counts from the end. -/
  | place (i : Int)
  deriving DecidableEq, Repr

/-- The items of a list and the number of one of them, after a place was made for it. A place behind
the end or in front of the start is made by nulls. -/
def makePlace (items : List Setting) (i : Int) : List Setting × Nat :=
  if 0 ≤ i then (items ++ List.replicate (i.toNat + 1 - items.length) .null, i.toNat)
  else if i.natAbs ≤ items.length then (items, items.length - i.natAbs)
  else (List.replicate (i.natAbs - items.length) .null ++ items, 0)

/-- The value with what stands at a path changed. Values on the way that the path does not fit give
way to empty tables and lists. -/
def Setting.change (f : Setting → Setting) : List Step → Setting → Setting
  | [], value => f value
  | .key name :: path, value =>
    .table (insert name (change f path (lookup name value.entries)) value.entries)
  | .place i :: path, value =>
    let (items, n) := makePlace value.items i
    .list (items.modify n (change f path))

/-- An incoming value laid over the one at a path. -/
def Setting.put (value : Setting) (path : List Step) (incoming : Setting) : Setting :=
  value.change (overlay · incoming) path

namespace Path

def isNameChar (c : Char) : Bool := c.isAlphanum || c = '_' || c = '-'

def isSpace (c : Char) : Bool := c = ' ' || c = '\t'

/-- Numbers of places are less than this, and not less than its negation. -/
def placeBound : Int := Int.pow 2 63

/-- The place that brackets name. -/
def place? (inside : List Char) : Option Step :=
  let trimmed := (inside.dropWhile isSpace).reverse.dropWhile isSpace |>.reverse
  let (negative, digits) := match trimmed with
    | '-' :: digits => (true, digits)
    | digits => (false, digits)
  match Text.Digits.value? 10 digits with
  | none => none
  | some n =>
    let i : Int := if negative then -n else n
    if -placeBound ≤ i ∧ i < placeBound then some (.place i) else none

/-- The steps behind the first name: names after points and places in brackets. The budget bounds
their number. -/
def steps? : Nat → List Char → Option (List Step)
  | _, [] => some []
  | 0, _ => none
  | budget + 1, '.' :: rest =>
    match rest.takeWhile isNameChar with
    | [] => none
    | name => (.key (String.ofList name) :: ·) <$> steps? budget (rest.dropWhile isNameChar)
  | budget + 1, '[' :: rest =>
    match place? (rest.takeWhile (· != ']')), rest.dropWhile (· != ']') with
    | some step, ']' :: rest => (step :: ·) <$> steps? budget rest
    | _, _ => none
  | _ + 1, _ => none

/-- The path that a key stands for. A key that is no path names itself. -/
def ofKey (key : String) : List Step :=
  (steps? (key.length + 1) ('.' :: key.toList)).getD [.key key]

end Path

/-- The settings that an outermost table stands for, once its keys are read as paths. -/
def Setting.ofEntries (entries : List (String × Setting)) : Setting :=
  entries.foldl (fun root (key, value) => root.put (Path.ofKey key) value) (.table [])

end Playground.Config
