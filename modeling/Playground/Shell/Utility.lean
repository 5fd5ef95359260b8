import Playground.Files.Tree
import Playground.Shell.Pattern
import Playground.Shell.Print

/-!
# Utilities

The programs of the system that scripts use: each gets its arguments, an input and the files, and
leaves what it wrote, the files and a status.

* `Utility.run?` — the utility of a name.
-/

set_option autoImplicit false

namespace Playground.Shell

open Files

/-- What a utility works on. -/
structure Job where
  tree : Tree
  here : Place
  arguments : List Raw
  input : Raw
  /-- Whether the input is a file. -/
  fromFile : Bool

/-- What a utility writes: to its output or to its errors. -/
inductive Writing where
  | output (text : Raw)
  | errors (text : Raw)
  deriving Repr

/-- What a utility leaves behind. -/
structure Outcome where
  tree : Tree
  writings : List Writing
  status : Nat
  /-- Whether the input was read. -/
  read : Bool

namespace Utility

/-- A utility at work: what it leaves behind so far, the last writing first. -/
abbrev Work := StateM Outcome

def write (text : Raw) : Work Unit :=
  modify fun o => { o with writings := .output text :: o.writings }

/-- Complains under the name of the utility and notes the failure. -/
def complain (name message : String) (status : Nat) : Work Unit :=
  modify fun o =>
    { o with
      writings := .errors (Raw.ofString (name ++ ": " ++ message ++ "\n")) :: o.writings
      status := max o.status status }

def useInput : Work Unit := modify fun o => { o with read := true }

/-- Does something to the files, or says why it cannot be done. -/
def act (change : Tree → Except FileError Tree) (failed : FileError → Work Unit) : Work Unit := do
  match change (← get).tree with
  | .ok tree => modify fun o => { o with tree }
  | .error e => failed e

/-! ## Names and options -/

/-- Characters that a name in a message is quoted for. -/
def isDelicate (c : Char) : Bool :=
  c.toNat < 0x20 || " !\"$&()*;<=>[^`|\\'#~?".toList.contains c

/-- A name in quotes. -/
def quoted (name : Raw) : String :=
  let s := Raw.toString name
  if name.contains '\'' then "\"" ++ s ++ "\"" else "'" ++ s ++ "'"

/-- A name, in quotes if it needs them. -/
def plain (name : Raw) : String :=
  if name.isEmpty || name.any isDelicate then quoted name else Raw.toString name

/-- Single letters out of arguments with one dash; all other arguments. -/
def options (words : List (String × Char)) (done : List Char) (operands : List Raw) :
    List Raw → Except String (List Char × List Raw)
  | [] => .ok (done, operands.reverse)
  | ['-', '-'] :: rest => .ok (done, operands.reverse ++ rest)
  | ('-' :: '-' :: word) :: rest =>
    match words.lookup (String.ofList word) with
    | some letter => options words (letter :: done) operands rest
    | none => .error ("unrecognized option '--" ++ Raw.toString word ++ "'")
  | ('-' :: letter :: letters) :: rest =>
    match (letter :: letters).find? fun c => !(words.map (·.2)).contains c with
    | none => options words ((letter :: letters) ++ done) operands rest
    | some c => .error ("invalid option -- '" ++ String.ofList [c] ++ "'")
  | operand :: rest => options words done (operand :: operands) rest

def tryHelp (name : String) : String := "\nTry '" ++ name ++ " --help' for more information."

/-- Runs a utility with its options and operands read. -/
def withOptions (name : String) (words : List (String × Char)) (bad : Nat) (arguments : List Raw)
    (run : (Char → Bool) → List Raw → Work Unit) : Work Unit :=
  match options words [] [] arguments with
  | .ok (letters, operands) => run letters.contains operands
  | .error e => complain name (e ++ tryHelp name) bad

/-- The last name of a path. -/
def baseName (path : Raw) : Raw :=
  let trimmed := (path.reverse.dropWhile (· = '/')).reverse
  if trimmed.isEmpty then path.take 1 else (trimmed.reverse.takeWhile (· != '/')).reverse

def below (directory name : Raw) : Raw :=
  if directory.getLast? = some '/' then directory ++ name else directory ++ '/' :: name

def text (path : Raw) : String := Raw.toString path

/-! ## Reading -/

/-- The content that a name stands for; a dash stands for the input. -/
def content (job : Job) (name : Raw) : Work (Except FileError Raw) := do
  if name = ['-'] then
    useInput
    return .ok job.input
  else return ((← get).tree.read job.here (text name)).map Raw.ofBytes

def cat (job : Job) : Work Unit :=
  withOptions "cat" [("show-all", 'u')] 1 job.arguments fun _ operands => do
    for name in if operands.isEmpty then [['-']] else operands do
      match ← content job name with
      | .ok text => write text
      | .error e => complain "cat" (plain name ++ ": " ++ e.words) 1

/-- Lines, words and bytes of a text. -/
def counts (s : Raw) : Nat × Nat × Nat :=
  let isSpace (c : Char) : Bool := c = ' ' || ('\t' ≤ c && c ≤ '\r')
  let words := s.foldl (fun (n, inWord) c =>
    if isSpace c then (n, false) else (if inWord then n else n + 1, true)) (0, false)
  (s.count '\n', words.1, s.length)

/-- Numbers next to each other, with at least the given width. -/
def columns (width : Nat) (numbers : List Nat) : Raw :=
  let cells := numbers.map fun n =>
    let digits := Raw.ofNat n
    List.replicate (width - digits.length) ' ' ++ digits
  [' '].intercalate cells

/-- A line of counts. -/
def countLine (has : Char → Bool) (width : Nat) (c : Nat × Nat × Nat) (name : Raw) : Raw :=
  let all := !has 'l' && !has 'w' && !has 'c'
  let pick (letter : Char) (n : Nat) : List Nat := if all || has letter then [n] else []
  let numbers := pick 'l' c.1 ++ pick 'w' c.2.1 ++ pick 'c' c.2.2
  columns width numbers ++ (if name.isEmpty then [] else ' ' :: name) ++ ['\n']

def wc (job : Job) : Work Unit :=
  withOptions "wc" [("bytes", 'c'), ("lines", 'l'), ("words", 'w')] 1 job.arguments
    fun has operands => do
      let kinds := ("lwc".toList.filter has).length
      let tree := (← get).tree
      let sizeOf (name : Raw) : Option Nat :=
        match tree.stat job.here (text name) with
        | .ok (_, e) => if e.isFile then some e.bytes.length else none
        | .error _ => some 0
      let sizes :=
        if operands.isEmpty then [if job.fromFile then some job.input.length else none]
        else operands.map sizeOf
      let width :=
        if operands.length ≤ 1 && kinds = 1 then 1
        else if sizes.all Option.isSome then (Raw.ofNat ((sizes.filterMap id).foldl (· + ·) 0)).length
        else 7
      if operands.isEmpty then
        useInput
        write (countLine has width (counts job.input) [])
      else
        let mut total := (0, 0, 0)
        for name in operands do
          match ← content job name with
          | .ok s =>
            let c := counts s
            total := (total.1 + c.1, total.2.1 + c.2.1, total.2.2 + c.2.2)
            write (countLine has width c name)
          | .error e =>
            complain "wc" (plain name ++ ": " ++ e.words) 1
            if e = .isDirectory then write (countLine has width (0, 0, 0) name)
        if operands.length > 1 then write (countLine has width total "total".toList)

/-! ## Listing -/

def entriesOf (tree : Tree) (has : Char → Bool) (place : Place) : List Raw :=
  let names := (tree.children place).map Raw.ofString
  let names := if has 'a' || has 'A' then names else names.filter (·.head? != some '.')
  if has 'a' then ".".toList :: "..".toList :: names else names

def ls (job : Job) : Work Unit :=
  withOptions "ls" [("all", 'a'), ("almost-all", 'A'), ("directory", 'd'), ("one", '1')] 2
    job.arguments fun has operands => do
      let tree := (← get).tree
      let operands := if operands.isEmpty then [['.']] else operands
      let found := operands.filterMap fun name =>
        match tree.stat job.here (text name) with
        | .ok (place, entry) => some (name, place, entry.isDirectory && !has 'd')
        | .error _ =>
          match tree.statLink job.here (text name) with
          | .ok (place, _) => some (name, place, false)
          | .error _ => none
      for name in operands do
        if (tree.statLink job.here (text name)).toOption.isNone then
          let e := match tree.statLink job.here (text name) with
            | .error e => e
            | .ok _ => .missing
          complain "ls" ("cannot access " ++ quoted name ++ ": " ++ e.words) 2
      let sorted := found.mergeSort fun a b => Raw.le a.1 b.1
      let files := sorted.filter (!·.2.2)
      let directories := sorted.filter (·.2.2)
      for (name, _, _) in files do write (name ++ ['\n'])
      let mut first := files.isEmpty
      for (name, place, _) in directories do
        if operands.length > 1 then
          write ((if first then [] else ['\n']) ++ name ++ ":\n".toList)
        first := false
        for entry in entriesOf tree has place do write (entry ++ ['\n'])

/-! ## Making and removing -/

/-- Makes a directory and those above it that are missing. -/
def makePath (job : Job) (path : Raw) : Work Unit := do
  let parts := Path.components (text path)
  let start := if Path.isAbsolute (text path) then "/" else ""
  for n in List.range parts.length do
    let part := start ++ "/".intercalate (parts.take (n + 1))
    match (← get).tree.stat job.here part with
    | .ok (_, entry) =>
      if !entry.isDirectory then
        complain "mkdir" ("cannot create directory " ++ quoted (Raw.ofString part) ++ ": " ++
          (if n + 1 = parts.length then FileError.present else .notDirectory).words) 1
        return
    | .error _ =>
      act (·.makeDirectory job.here part) fun e =>
        complain "mkdir" ("cannot create directory " ++ quoted (Raw.ofString part) ++ ": " ++
          e.words) 1

def mkdir (job : Job) : Work Unit :=
  withOptions "mkdir" [("parents", 'p')] 1 job.arguments fun has operands => do
    if operands.isEmpty then complain "mkdir" ("missing operand" ++ tryHelp "mkdir") 1
    for name in operands do
      if has 'p' then makePath job name
      else
        act (·.makeDirectory job.here (text name)) fun e =>
          complain "mkdir" ("cannot create directory " ++ quoted name ++ ": " ++ e.words) 1

def rm (job : Job) : Work Unit :=
  withOptions "rm" [("force", 'f'), ("recursive", 'r'), ("Recursive", 'R'), ("dir", 'd')] 1
    job.arguments fun has operands => do
      if operands.isEmpty && !has 'f' then complain "rm" ("missing operand" ++ tryHelp "rm") 1
      for name in operands do
        match (← get).tree.statLink job.here (text name) with
        | .error e =>
          if !(has 'f' && (e = .missing || e = .notDirectory)) then
            complain "rm" ("cannot remove " ++ quoted name ++ ": " ++ e.words) 1
        | .ok (place, entry) =>
          let mayRemove := !entry.isDirectory || has 'r' || has 'R' ||
            (has 'd' && ((← get).tree.children place).isEmpty)
          if mayRemove then modify fun o => { o with tree := o.tree.erase place }
          else complain "rm" ("cannot remove " ++ quoted name ++ ": Is a directory") 1

def touch (job : Job) : Work Unit :=
  withOptions "touch" [("no-create", 'c'), ("access", 'a'), ("modification", 'm')] 1 job.arguments
    fun has operands => do
      if operands.isEmpty then complain "touch" ("missing file operand" ++ tryHelp "touch") 1
      for name in operands do
        match (← get).tree.stat job.here (text name) with
        | .ok _ => pure ()
        | .error .missing =>
          if !has 'c' then
            act (fun t => (·.1) <$> t.openForWriting job.here (text name)) fun e =>
              let e := if e = .isDirectory then .missing else e
              complain "touch" ("cannot touch " ++ quoted name ++ ": " ++ e.words) 1
        | .error e => complain "touch" ("cannot touch " ++ quoted name ++ ": " ++ e.words) 1

/-! ## Copying and linking -/

/-- Whether a name leads to a directory. -/
def isDirectory (job : Job) (name : Raw) : Work Bool := do
  return ((← get).tree.stat job.here (text name)).toOption.any (·.2.isDirectory)

/-- Copies what is at a place, with all that is below it. -/
def copyBelow (source target : Place) (tree : Tree) : Tree :=
  tree.entries.foldl
    (fun t (place, entry) =>
      if source.isPrefixOf place then t.put (target ++ place.drop source.length) entry else t)
    tree

/-- Copies one file, or a directory with `recursive`. -/
def copyOne (job : Job) (recursive : Bool) (source target : Raw) : Work Unit := do
  let tree := (← get).tree
  match tree.stat job.here (text source) with
  | .error e => complain "cp" ("cannot stat " ++ quoted source ++ ": " ++ e.words) 1
  | .ok (place, entry) =>
    if entry.isDirectory then
      if !recursive then
        complain "cp" ("-r not specified; omitting directory " ++ quoted source) 1
      else
        match tree.locate true job.here (text target) with
        | .ok (.found goal .directory) =>
          modify fun o => { o with tree := copyBelow place goal o.tree }
        | .ok (.found _ _) =>
          complain "cp" ("cannot overwrite non-directory " ++ quoted target ++ " with directory " ++
            quoted source) 1
        | .ok (.vacant directory name) =>
          modify fun o => { o with tree := copyBelow place (directory ++ [name]) o.tree }
        | .error e => complain "cp" ("cannot create directory " ++ quoted target ++ ": " ++ e.words) 1
    else
      let failed (e : FileError) : Work Unit :=
        let e := if e = .isDirectory && Path.endsInSlash (text target) then .notDirectory else e
        complain "cp" ("cannot create regular file " ++ quoted target ++ ": " ++ e.words) 1
      match tree.stat job.here (text target) with
      | .ok (goal, there) =>
        if goal = place then
          complain "cp" (quoted source ++ " and " ++ quoted target ++ " are the same file") 1
        else if there.isDirectory then
          complain "cp" ("cannot overwrite directory " ++ quoted target ++ " with non-directory") 1
        else modify fun o => { o with tree := o.tree.setBytes goal entry.bytes }
      | .error _ =>
        act (fun t => do
          let (t, goal) ← t.openForWriting job.here (text target)
          return t.put goal (match entry with
            | .null => .file [] false
            | entry => entry)) failed

/-- Sources and a target: the last operand, or a directory that takes them all. -/
def toTarget (name : String) (job : Job) (operands : List Raw)
    (one : Raw → Raw → Work Unit) : Work Unit := do
  match operands.reverse with
  | [] => complain name ("missing file operand" ++ tryHelp name) 1
  | [only] =>
    complain name ("missing destination file operand after " ++ quoted only ++ tryHelp name) 1
  | target :: sources =>
    if ← isDirectory job target then
      for source in sources.reverse do one source (below target (baseName source))
    else if sources.length > 1 then
      let e := match (← get).tree.stat job.here (text target) with
        | .ok _ => FileError.notDirectory
        | .error e => e
      complain name ("target " ++ quoted target ++ ": " ++ e.words) 1
    else
      for source in sources do one source target

def cp (job : Job) : Work Unit :=
  withOptions "cp" [("recursive", 'r'), ("Recursive", 'R'), ("archive", 'a'), ("force", 'f'),
      ("preserve", 'p')] 1 job.arguments fun has operands =>
    toTarget "cp" job operands (copyOne job (has 'r' || has 'R' || has 'a'))

/-- Makes one link; a link that is not symbolic is another file of the same content. -/
def linkOne (job : Job) (symbolic force : Bool) (source target : Raw) : Work Unit := do
  let kind := if symbolic then "symbolic link " else "hard link "
  if force then
    match (← get).tree.statLink job.here (text target) with
    | .ok (place, entry) =>
      if !entry.isDirectory then modify fun o => { o with tree := o.tree.erase place }
    | .error _ => pure ()
  if symbolic then
    act (·.makeLink job.here (text source) (text target)) fun e =>
      complain "ln" ("failed to create " ++ kind ++ quoted target ++ ": " ++ e.words) 1
  else
    match (← get).tree.stat job.here (text source) with
    | .error e => complain "ln" ("failed to access " ++ quoted source ++ ": " ++ e.words) 1
    | .ok (_, .directory) =>
      complain "ln" (plain source ++ ": hard link not allowed for directory") 1
    | .ok (_, entry) =>
      act (fun t => return t.put (← t.vacancy job.here (text target)) entry) fun e =>
        complain "ln" ("failed to create " ++ kind ++ quoted target ++ ": " ++ e.words) 1

def ln (job : Job) : Work Unit :=
  withOptions "ln" [("symbolic", 's'), ("force", 'f'), ("no-dereference", 'n')] 1 job.arguments
    fun has operands =>
      match operands with
      | [only] => linkOne job (has 's') (has 'f') only (baseName only)
      | operands => toTarget "ln" job operands (linkOne job (has 's') (has 'f'))

/-! ## Translating -/

/-- The characters that a set of `tr` names: single ones, ranges and classes. The budget bounds
their number. -/
def members : Nat → Raw → List Char
  | 0, _ => []
  | _, [] => []
  | budget + 1, '[' :: ':' :: rest =>
    let name := rest.takeWhile Char.isAlpha
    match rest.drop name.length with
    | ':' :: ']' :: rest =>
      let all := (Pattern.classRanges name).flatMap fun (low, high) =>
        (List.range (high.toNat + 1 - low.toNat)).map fun n => Char.ofNat (low.toNat + n)
      (all.mergeSort fun a b => decide (a ≤ b)) ++ members budget rest
    | _ => '[' :: members budget (':' :: rest)
  | budget + 1, c :: rest =>
    let (low, rest) := if c = '\\' then Print.escape rest else (c, rest)
    match rest with
    | '-' :: d :: rest' =>
      let (high, rest') := if d = '\\' then Print.escape rest' else (d, rest')
      (List.range (high.toNat + 1 - low.toNat)).map (fun n => Char.ofNat (low.toNat + n)) ++
        members budget rest'
    | rest => low :: members budget rest

def membersOf (set : Raw) : List Char := members set.length set

/-- Runs of one character out of a class made single. -/
def squeeze (p : Char → Bool) : Raw → Raw
  | c :: d :: rest => if c = d && p c then squeeze p (d :: rest) else c :: squeeze p (d :: rest)
  | rest => rest

/-- A character replaced by the one in its place; the last one stands for all that are missing. -/
def translate (source target : List Char) (c : Char) : Char :=
  match source.reverse.idxOf? c with
  | none => c
  | some n => (target[source.length - 1 - n]?).getD (target.getLastD c)

def tr (job : Job) : Work Unit :=
  withOptions "tr" [("delete", 'd'), ("squeeze-repeats", 's'), ("complement", 'c'),
      ("Complement", 'C')] 1 job.arguments fun has operands => do
    let complement := has 'c' || has 'C'
    let first := membersOf (operands.headD [])
    let isMember (c : Char) : Bool := first.contains c != complement
    useInput
    match has 'd', has 's', operands with
    | _, _, [] => complain "tr" ("missing operand" ++ tryHelp "tr") 1
    | true, false, [_] => write (job.input.filter (!isMember ·))
    | true, true, [_, second] =>
      write (squeeze (membersOf second).contains (job.input.filter (!isMember ·)))
    | false, true, [_] => write (squeeze isMember job.input)
    | false, squeezed, [_, second] =>
      let target := membersOf second
      let map (c : Char) : Char :=
        if complement then (if isMember c then target.getLastD c else c)
        else translate first target c
      let text := job.input.map map
      write (if squeezed then squeeze target.contains text else text)
    | false, false, [only] =>
      complain "tr" ("missing operand after " ++ quoted only ++
        "\nTwo strings must be given when translating." ++ tryHelp "tr") 1
    | _, _, operands =>
      complain "tr" ("extra operand " ++ quoted (operands.getLastD []) ++ tryHelp "tr") 1

/-! ## All of them -/

/-- The utilities by name. -/
def all : List (String × (Job → Work Unit)) :=
  [("cat", cat), ("cp", cp), ("ln", ln), ("ls", ls), ("mkdir", mkdir), ("rm", rm),
    ("touch", touch), ("tr", tr), ("wc", wc), ("true", fun _ => pure ()),
    ("false", fun _ => modify ({ · with status := 1 }))]

/-- Runs the utility of a name, if there is one. -/
def run? (name : String) (job : Job) : Option Outcome :=
  (all.lookup name).map fun work =>
    let (_, o) := (work job).run ⟨job.tree, [], 0, false⟩
    { o with writings := o.writings.reverse }

end Utility

end Playground.Shell
