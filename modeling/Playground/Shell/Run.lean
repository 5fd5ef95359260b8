import Playground.Compiler.Resolve
import Playground.Shell.Condition
import Playground.Shell.State
import Playground.Shell.Utility

/-!
# Running scripts

What commands do. Programs run one after another, also those of a pipeline, of which each gets the
whole output of the one before it.

* `Exec.command` — runs a command.
* `Exec.script` — runs a script, line by line.
* `Exec.program` — runs a program that is a file.
-/

set_option autoImplicit false

namespace Playground.Shell

open Files

namespace Exec

/-! ## Simple parts -/

/-- The words in which the end by a signal is reported. -/
def signalText (number : Nat) : String :=
  match number with
  | 1 => "Hangup"
  | 2 => "Interrupt"
  | 3 => "Quit"
  | 6 => "Aborted"
  | 9 => "Killed"
  | 11 => "Segmentation fault"
  | 14 => "Alarm clock"
  | 15 => "Terminated"
  | n => "Signal " ++ toString n

/-- The signals by name, without the letters that all of them begin with. -/
def signals : List (String × Nat) :=
  [("EXIT", 0), ("HUP", 1), ("INT", 2), ("QUIT", 3), ("ILL", 4), ("TRAP", 5), ("ABRT", 6),
    ("BUS", 7), ("FPE", 8), ("KILL", 9), ("USR1", 10), ("SEGV", 11), ("USR2", 12), ("PIPE", 13),
    ("ALRM", 14), ("TERM", 15), ("STKFLT", 16), ("CHLD", 17), ("CONT", 18), ("STOP", 19),
    ("TSTP", 20), ("TTIN", 21), ("TTOU", 22), ("URG", 23), ("XCPU", 24), ("XFSZ", 25),
    ("VTALRM", 26), ("PROF", 27), ("WINCH", 28), ("IO", 29), ("PWR", 30), ("SYS", 31)]

/-- Signals that end nothing on their own. -/
def harmless : List Nat := [0, 17, 18, 19, 20, 21, 22, 23, 28]

/-- The number of a signal, given by number or by name. -/
def signal? (text : Raw) : Option Nat :=
  match Text.Digits.value? 10 text with
  | some n => some n
  | none =>
    let name := (String.ofList text).toUpper
    (signals.lookup name) <|> ((signals.map fun (s, n) => ("SIG" ++ s, n)).lookup name)

/-- A status that an argument names. -/
def statusOf (argument : Raw) : Run Nat :=
  match Text.Digits.value? 10 argument with
  | some n => return n % 256
  | none => do abort ("Illegal number: " ++ Raw.toString argument)

/-- The descriptor that a word names. -/
def descriptor? (text : Raw) : Option Nat := Text.Digits.value? 10 text

/-- What is said of a file that cannot be opened. -/
def openFault (path : Raw) (create : Bool) (e : FileError) : String :=
  let why := match e, create with
    | .missing, false | .notDirectory, false => "No such file"
    | .missing, true | .notDirectory, true => "Directory nonexistent"
    | e, _ => e.words
  (if create then "cannot create " else "cannot open ") ++ Raw.toString path ++ ": " ++ why

/-- Opens a file for reading. -/
def openInput (fd : Nat) (path : Raw) : Run Bool := do
  let s ← get
  match s.world.tree.stat s.env.here (Raw.toString path) with
  | .ok (_, entry) =>
    setDescriptor fd (some (← openStream (.source (Raw.ofBytes entry.bytes) entry.isFile)))
    return true
  | .error e =>
    report (openFault path false e)
    return false

/-- Opens a file for writing, at its end or after emptying it. -/
def openOutput (fd : Nat) (path : Raw) (append : Bool) : Run Bool := do
  let s ← get
  let known := match Raw.toString path with
    | "/dev/stdout" => some 1
    | "/dev/stderr" => some 2
    | _ => none
  match known with
  | some other =>
    setDescriptor fd (← streamOf other)
    return true
  | none =>
    match s.world.tree.openForWriting s.env.here (Raw.toString path) with
    | .error e =>
      report (openFault path true e)
      return false
    | .ok (tree, place) =>
      setTree (if append then tree else tree.setBytes place [])
      let stream := if tree.find? place = some .null then Stream.null else .file place
      setDescriptor fd (some (← openStream stream))
      return true

/-- Runs with the descriptors put back afterwards, whatever happens. -/
def keepingDescriptors (body : Run Unit) : Run Unit := do
  let saved := (← get).env.descriptors
  let putBack : Run Unit := modifyEnv fun e => { e with descriptors := saved }
  try body
  catch jump =>
    putBack
    throw jump
  putBack

/-- Runs with failures not leaving the shell. -/
def guarding (body : Run Unit) : Run Unit := do
  let saved := (← get).env.guarded
  modifyEnv fun e => { e with guarded := true }
  let putBack : Run Unit := modifyEnv fun e => { e with guarded := saved }
  try body
  catch jump =>
    putBack
    throw jump
  putBack

/-- Runs in a shell of its own: all but the world is put back, and the status taken over. -/
def inSubshell (body : Run Unit) : Run Unit := do
  let saved := (← get).env
  let status ← (do
    try
      body
      return (← get).env.status
    catch
      | .leave status => return status
      | .signal n => throw (.signal n)
      | .exhausted => throw .exhausted
      | _ => return (← get).env.status)
  modifyEnv fun _ => { saved with status }

/-- Leaves the shell after a failure, if that is wanted. -/
def checkStatus : Run Unit := do
  let e := (← get).env
  if e.exitOnError && !e.guarded && e.status != 0 then throw (.leave e.status)

/-- The text of a whole output, without line ends at its end and without zero bytes. -/
def captured (text : Raw) : Raw :=
  ((text.filter (·.toNat != 0)).reverse.dropWhile (· = '\n')).reverse

def dropBlanks (text : Raw) : Raw := text.dropWhile fun c => c = ' ' || c = '\t'

/-- The interpreter that the first line of a file names, with one argument perhaps. -/
def interpreter? (content : Raw) : Option (Raw × List Raw) :=
  match content with
  | '#' :: '!' :: rest =>
    let line := dropBlanks (rest.takeWhile (· != '\n'))
    let line := (dropBlanks line.reverse).reverse
    let path := line.takeWhile fun c => c != ' ' && c != '\t'
    match dropBlanks (line.drop path.length) with
    | [] => some (path, [])
    | argument => some (path, [argument])
  | _ => none

/-- The exported variables. -/
def exports (e : Env) : List (Raw × Variable) := e.bindings.filter (·.2.exported)

/-- The shell of a program that is started. -/
def child (e : Env) (name : Raw) (arguments : List Raw) : Env :=
  { e with
    name
    arguments
    bindings := exports e
    functions := []
    status := 0
    line := 1
    exitOnError := false
    failOnUnset := false
    guarded := false
    traps := e.traps.filter fun (n, action) => n != 0 && action.isEmpty }

/-- Where a command is found: its place, or whether there is a file that cannot be run. -/
inductive Found where
  | program (place : Place) (path : Raw)
  | denied
  | nowhere

/-- Looks for a command: a name with a slash is a path, any other is looked for on the search
path. -/
def find (s : State) (name : Raw) : Found :=
  let look (path : String) : Option Found :=
    match s.world.tree.stat s.env.here path with
    | .ok (place, entry) =>
      some (if entry.isFile && entry.isExecutable then .program place (Raw.ofString path) else .denied)
    | .error _ => none
  if name.contains '/' then (look (Raw.toString name)).getD .nowhere
  else
    let path := ((s.env.value? "PATH".toList).map Raw.toString).getD defaultPath
    let directories := (Text.Lines.cut ':' path.toList).map String.ofList
    let found := directories.filterMap fun d =>
      look (Path.join (if d = "" then "." else d) (Raw.toString name))
    match found.find? fun f => f matches .program .. with
    | some f => f
    | none => if found.isEmpty then .nowhere else .denied

/-! ## Commands of the shell itself -/

/-- Commands that are part of the shell and whose assignments outlast them. -/
def specialNames : List String :=
  [":", ".", "break", "continue", "eval", "exec", "exit", "export", "readonly", "return", "set",
    "shift", "times", "trap", "unset"]

/-- The other commands that are part of the shell. -/
def builtinNames : List String :=
  ["true", "false", "echo", "printf", "test", "[", "kill", "pwd", "cd", "read", "umask", "wait",
    "command", "local", "type"]

def isSpecial (name : Raw) : Bool := specialNames.contains (String.ofList name)

def isBuiltin (name : Raw) : Bool := isSpecial name || builtinNames.contains (String.ofList name)

/-- Evaluates a condition. -/
def test (name : String) (words : List Raw) : Run Unit := do
  let s ← get
  match Condition.evaluate ⟨s.world.tree, s.env.here⟩ words with
  | .ok answer => setStatus (if answer then 0 else 1)
  | .error e =>
    report (name ++ ": " ++ e)
    setStatus 2

/-- Evaluates a condition in brackets. -/
def bracket (words : List Raw) : Run Unit := do
  match words.reverse with
  | [']'] :: rest => test "[" rest.reverse
  | _ =>
    report "[: missing ]"
    setStatus 2

def printf (arguments : List Raw) : Run Unit := do
  let arguments := match arguments with
    | ['-', '-'] :: rest => rest
    | arguments => arguments
  match arguments with
  | [] =>
    report "printf: usage: printf format [arg ...]"
    setStatus 2
  | format :: arguments =>
    let (output, complaints) := Print.format format arguments
    writeTo 1 output
    for c in complaints do report ("printf: " ++ c)
    setStatus (if complaints.isEmpty then 0 else 1)

/-- Sends a signal. Only the shell itself can be reached. -/
def kill (arguments : List Raw) (trap : Raw → Run Unit) : Run Unit := do
  let (name, targets) := match arguments with
    | ['-', 's'] :: name :: targets => (some name, targets)
    | ('-' :: name) :: targets => (some name, targets)
    | targets => (none, targets)
  match name.elim (some 15) signal? with
  | none =>
    report ("kill: invalid signal number or name: " ++ Raw.toString (name.getD []))
    setStatus 2
  | some n =>
    setStatus 0
    for target in targets do
      if target = Raw.ofNat processNumber then
        match (← get).env.traps.lookup n with
        | some [] => if n = 9 then throw (.signal n)
        | some action => trap action
        | none => if !harmless.contains n then throw (.signal n)
      else
        report "kill: No such process"
        setStatus 1

def cd (arguments : List Raw) : Run Unit := do
  let s ← get
  let target := match arguments with
    | [] => (s.env.value? "HOME".toList).getD ['/']
    | target :: _ => target
  match s.world.tree.stat s.env.here (Raw.toString target) with
  | .ok (place, .directory) =>
    modifyEnv fun e =>
      { e.assign "PWD".toList (Raw.ofString (Path.render place)) with here := place, status := 0 }
  | _ =>
    report ("cd: can't cd to " ++ Raw.toString target)
    setStatus 2

/-- The first fields of a line, one for each name; the last name takes all that is left. -/
def distribute (separators : Raw) : List Raw → Raw → List (Raw × Raw)
  | [], _ => []
  | [name], text =>
    let isWhiteSeparator (c : Char) : Bool := separators.contains c && isWhite c
    [(name, ((text.dropWhile isWhiteSeparator).reverse.dropWhile isWhiteSeparator).reverse)]
  | name :: names, text =>
    let text := text.dropWhile fun c => separators.contains c && isWhite c
    let field := text.takeWhile fun c => !separators.contains c
    (name, field) :: distribute separators names (text.drop (field.length + 1))

/-- Reads a line into variables. -/
def read (arguments : List Raw) : Run Unit := do
  let names := arguments.filter (·.head? != some '-')
  let names := if names.isEmpty then ["REPLY".toList] else names
  let (text, _) ← inputOf 0
  let line := text.takeWhile (· != '\n')
  setInput 0 (text.drop (line.length + 1))
  let separators := (← get).env.separators
  modifyEnv fun e =>
    (distribute separators names line).foldl (fun e (name, value) => e.assign name value) e
  setStatus (if text.contains '\n' then 0 else 1)

/-- Exports variables, set at the same time perhaps. -/
def exportAll (arguments : List Raw) : Run Unit := do
  for argument in arguments do
    let name := argument.takeWhile (· != '=')
    match argument.drop name.length with
    | '=' :: value => modifyEnv fun e => (e.assign name value).export name
    | _ =>
      modifyEnv fun e =>
        if (e.bindings.lookup name).isSome then e.export name else e
  setStatus 0

/-- Sets variables. -/
def setAll (arguments : List Raw) : Run Unit := do
  for argument in arguments do
    let name := argument.takeWhile (· != '=')
    match argument.drop name.length with
    | '=' :: value => modifyEnv fun e => e.assign name value
    | _ => pure ()
  setStatus 0

/-- Sets one option of the shell. -/
def setOption (on : Bool) (letter : Char) : Run Unit :=
  modifyEnv fun e =>
    if letter = 'e' then { e with exitOnError := on }
    else if letter = 'u' then { e with failOnUnset := on }
    else e

/-- Sets options and arguments of the shell. -/
def setCommand (arguments : List Raw) : Nat → Run Unit
  | 0 => setStatus 0
  | budget + 1 => do
    match arguments with
    | [] => setStatus 0
    | ['-', '-'] :: rest =>
      modifyEnv fun e => { e with arguments := rest }
      setStatus 0
    | ['-', 'o'] :: _ :: rest => setCommand rest budget
    | ('-' :: letters) :: rest =>
      for c in letters do setOption true c
      setCommand rest budget
    | ('+' :: letters) :: rest =>
      for c in letters do setOption false c
      setCommand rest budget
    | rest =>
      modifyEnv fun e => { e with arguments := rest }
      setStatus 0

def shift (arguments : List Raw) : Run Unit := do
  let n ← match arguments with
    | [] => pure 1
    | n :: _ => statusOf n
  if (← get).env.arguments.length < n then abort "shift: can't shift that many"
  modifyEnv fun e => { e with arguments := e.arguments.drop n, status := 0 }

/-- Says what is to be done on signals. -/
def trap (arguments : List Raw) : Run Unit := do
  match arguments with
  | [] => setStatus 0
  | action :: names =>
    for name in names do
      match signal? name with
      | none =>
        report ("trap: " ++ Raw.toString name ++ ": bad trap")
        setStatus 1
      | some n =>
        modifyEnv fun e =>
          let others := e.traps.filter (·.1 != n)
          { e with
            status := 0
            traps := if action = ['-'] then others else (n, action) :: others }

/-- Says where commands are found. -/
def locate (arguments : List Raw) : Run Unit := do
  setStatus 0
  for name in arguments do
    if isBuiltin name || ((← get).env.functions.lookup name).isSome then writeTo 1 (name ++ ['\n'])
    else
      match find (← get) name with
      | .program _ path => writeTo 1 (path ++ ['\n'])
      | _ => setStatus 127

/-- Runs a utility with the descriptors of the shell. -/
def utility (name : String) (arguments : List Raw) : Run Unit := do
  let (input, fromFile) ← inputOf 0
  let s ← get
  match Utility.run? name ⟨s.world.tree, s.env.here, arguments, input, fromFile⟩ with
  | none => setStatus 127
  | some o =>
    setTree o.tree
    if o.read then setInput 0 []
    for w in o.writings do
      match w with
      | .output text => writeTo 1 text
      | .errors text => writeTo 2 text
    setStatus o.status

/-! ## Commands -/

/-- Runs the commands of a loop once; says whether the loop goes on. -/
def turn (body : Run Unit) : Run Bool := do
  try
    body
    return true
  catch
    | .breakLoop 0 => return false
    | .breakLoop (n + 1) => throw (.breakLoop n)
    | .nextTurn 0 => return true
    | .nextTurn (n + 1) => throw (.nextTurn n)
    | jump => throw jump

/-- The number of loops that an argument names, less one. -/
def levels (arguments : List Raw) : Run Nat := do
  match arguments with
  | [] => return 0
  | n :: _ => return (← statusOf n) - 1

mutual

/-- Expands a word. -/
def expand : Nat → Word → Run (List Item)
  | 0, _ => throw .exhausted
  | _ + 1, [] => return []
  | budget + 1, piece :: rest => do
    let first ← expandPiece budget piece
    return first ++ (← expand budget rest)

/-- Expands text that stands in braces. -/
def expandText : Nat → Bool → Raw → Run (List Item)
  | 0, _, _ => throw .exhausted
  | budget + 1, quoted, text => do
    match Grammar.whole (if quoted then .document else .plain) text with
    | .error e => abort e
    | .ok word => expand budget word

/-- Expands a part of a word. -/
def expandPiece : Nat → Piece → Run (List Item)
  | 0, _ => throw .exhausted
  | _ + 1, .text s quoted =>
    return if quoted then .mark :: items s .quoted else items s .literal
  | budget + 1, .output script quoted => do
    let text ← outputOf budget script
    return if quoted then .mark :: items text .quoted else items text .expanded
  | budget + 1, .arithmetic expression quoted => do
    let text := plainText (joinItems (← expandText budget true expression))
    let e := (← get).env
    match Arithmetic.evaluate e.value? text with
    | .error message => abort message
    | .ok (n, assigned) =>
      modifyEnv fun e => assigned.reverse.foldl (fun e (name, n) => e.assign name (Raw.ofInt n)) e
      return items (Raw.ofInt n) (if quoted then .quoted else .expanded)
  | budget + 1, .parameter name use quoted => do
    let ink : Ink := if quoted then .quoted else .expanded
    let e := (← get).env
    let value := e.value? name
    let shown (text : Raw) : List Item :=
      if quoted then .mark :: items text .quoted else items text .expanded
    let isMissing (empty : Bool) : Bool := value.isNone || (empty && value = some [])
    let checked : Run Raw := do
      match value with
      | some v => return v
      | none =>
        if e.failOnUnset && name != ['@'] && name != ['*'] then
          abort (Raw.toString name ++ ": parameter not set")
        else return []
    let whole : Run (List Item) := do
      if name = ['@'] || (name = ['*'] && !quoted) then
        let parts := e.arguments.map fun a => if quoted then .mark :: items a ink else items a ink
        return [Item.cut].intercalate parts
      else if name = ['*'] then
        return shown ((e.separators.take 1).intercalate e.arguments)
      else return shown (← checked)
    match use with
    | .value => whole
    | .length => return items (Raw.ofNat (← checked).length) ink
    | .orElse empty word => if isMissing empty then expandText budget quoted word else whole
    | .ifSet empty word => if isMissing empty then return [] else expandText budget quoted word
    | .orAssign empty word =>
      if isMissing empty then
        let text := plainText (joinItems (← expandText budget quoted word))
        modifyEnv fun e => e.assign name text
        return shown text
      else whole
    | .orFail empty word =>
      if isMissing empty then
        let text := plainText (joinItems (← expandText budget quoted word))
        let text := if word.isEmpty then
            "parameter not set" ++ if empty then " or null" else ""
          else Raw.toString text
        abort (Raw.toString name ++ ": " ++ text)
      else whole
    | .trimStart longest pattern =>
      let pattern := Pattern.ofMarked (joinItems (← expandText budget false pattern))
      return shown (Pattern.trimStart pattern longest (← checked))
    | .trimEnd longest pattern =>
      let pattern := Pattern.ofMarked (joinItems (← expandText budget false pattern))
      return shown (Pattern.trimEnd pattern longest (← checked))

/-- The output of a script that runs in a shell of its own. -/
def outputOf : Nat → Raw → Run Raw
  | 0, _ => throw .exhausted
  | budget + 1, text => do
    let stream ← openStream (.sink [])
    let before := (← get).env.status
    inSubshell do
      setDescriptor 1 (some stream)
      modifyEnv fun e => { e with traps := e.traps.filter (·.1 != 0) }
      script budget text
    modifyEnv fun e => { e with status := before, outputStatus := some e.status }
    return captured (← written stream)

/-- A word as one text. -/
def single : Nat → Word → Run Raw
  | 0, _ => throw .exhausted
  | budget + 1, word => do return plainText (joinItems (← expand budget word))

/-- The texts that words stand for. -/
def words : Nat → List Word → Run (List Raw)
  | 0, _ => throw .exhausted
  | _ + 1, [] => return []
  | budget + 1, word :: rest => do
    let expanded ← expand budget word
    let s ← get
    let found := (fields s.env.separators expanded).flatMap (paths s.world.tree s.env.here)
    return found ++ (← words budget rest)

/-- Carries out redirections in order, up to one that fails. -/
def redirect : Nat → List Redirection → Run Bool
  | 0, _ => throw .exhausted
  | _ + 1, [] => return true
  | budget + 1, r :: rest => do
    let done ← match r with
      | .input fd path => openInput fd (← single budget path)
      | .output fd path => openOutput fd (← single budget path) false
      | .append fd path => openOutput fd (← single budget path) true
      | .here fd text =>
        setDescriptor fd (some (← openStream (.source (← single budget text) true)))
        pure true
      | .same fd other =>
        let other ← single budget other
        if other = ['-'] then
          setDescriptor fd none
          pure true
        else
          match descriptor? other with
          | none => abort "Syntax error: Bad fd number"
          | some n =>
            match ← streamOf n with
            | some stream =>
              setDescriptor fd (some stream)
              pure true
            | none =>
              report (toString n ++ ": Bad file descriptor")
              pure false
    if done then redirect budget rest else return false

/-- Carries out assignments in order. -/
def assignAll : Nat → Bool → List (Raw × Word) → Run Unit
  | 0, _, _ => throw .exhausted
  | _ + 1, _, [] => return ()
  | budget + 1, exported, (name, word) :: rest => do
    let value ← single budget word
    modifyEnv fun e =>
      let e := e.assign name value
      if exported then e.export name else e
    assignAll budget exported rest

/-- Runs a command. -/
def command : Nat → Command → Run Unit
  | 0, _ => throw .exhausted
  | _ + 1, .nothing => return ()
  | budget + 1, .simple line assignments parts redirections => do
    modifyEnv fun e => { e with line }
    simple budget assignments parts redirections
    checkStatus
  | budget + 1, .redirected line body redirections =>
    keepingDescriptors do
      modifyEnv fun e => { e with line }
      if ← redirect budget redirections then command budget body
      else
        setStatus 2
        checkStatus
  | budget + 1, .pipeline stages => do
    let input ← streamOf 0
    pipeline budget input stages
    checkStatus
  | budget + 1, .negated body => do
    guarding (command budget body)
    modifyEnv fun e => { e with status := if e.status = 0 then 1 else 0 }
  | budget + 1, .both first second => do
    guarding (command budget first)
    if (← get).env.status = 0 then command budget second
  | budget + 1, .either first second => do
    guarding (command budget first)
    if (← get).env.status != 0 then command budget second
  | budget + 1, .sequence first second => do
    command budget first
    command budget second
  | budget + 1, .background body => do
    let stream ← openStream .null
    inSubshell do
      setDescriptor 0 (some stream)
      command budget body
    setStatus 0
  | budget + 1, .subshell body => do
    inSubshell do
      modifyEnv fun e => { e with traps := e.traps.filter (·.1 != 0) }
      command budget body
    checkStatus
  | budget + 1, .choice condition body otherwise => do
    guarding (command budget condition)
    if (← get).env.status = 0 then command budget body
    else
      setStatus 0
      command budget otherwise
  | budget + 1, .loop succeeds condition body => loop budget 0 succeeds condition body
  | budget + 1, .each name values body => do
    let values ← match values with
      | some values => words budget values
      | none => pure (← get).env.arguments
    setStatus 0
    each budget name values body
  | budget + 1, .select subject arms => do
    let subject ← single budget subject
    select budget subject arms
  | _ + 1, .define name body => do
    modifyEnv fun e =>
      { e with functions := (name, body) :: e.functions.filter (·.1 != name), status := 0 }

/-- Runs a loop; the status is that of the last turn. -/
def loop : Nat → Nat → Bool → Command → Command → Run Unit
  | 0, _, _, _, _ => throw .exhausted
  | budget + 1, last, succeeds, condition, body => do
    let goesOn ← turn (guarding (command budget condition))
    if goesOn && ((← get).env.status = 0) = succeeds then
      if ← turn (command budget body) then
        loop budget (← get).env.status succeeds condition body
    else setStatus last

/-- Runs a loop over values. -/
def each : Nat → Raw → List Raw → Command → Run Unit
  | 0, _, _, _ => throw .exhausted
  | _ + 1, _, [], _ => return ()
  | budget + 1, name, value :: rest, body => do
    modifyEnv fun e => e.assign name value
    if ← turn (command budget body) then each budget name rest body

/-- Runs the first arm with a pattern that fits. -/
def select : Nat → Raw → List (List Word × Command) → Run Unit
  | 0, _, _ => throw .exhausted
  | _ + 1, _, [] => setStatus 0
  | budget + 1, subject, (patterns, body) :: rest => do
    if ← fitsAny budget subject patterns then
      setStatus 0
      command budget body
    else select budget subject rest

def fitsAny : Nat → Raw → List Word → Run Bool
  | 0, _, _ => throw .exhausted
  | _ + 1, _, [] => return false
  | budget + 1, subject, word :: rest => do
    let pattern := Pattern.ofMarked (joinItems (← expand budget word))
    if Pattern.fits pattern subject then return true else fitsAny budget subject rest

/-- Runs the stages of a pipeline, of which the first has the given input. -/
def pipeline : Nat → Option Nat → List Command → Run Unit
  | 0, _, _ => throw .exhausted
  | _ + 1, _, [] => return ()
  | budget + 1, input, [last] =>
    inSubshell do
      setDescriptor 0 input
      command budget last
  | budget + 1, input, stage :: rest => do
    let stream ← openStream (.sink [])
    inSubshell do
      setDescriptor 0 input
      setDescriptor 1 (some stream)
      command budget stage
    let next ← openStream (.source (← written stream) false)
    pipeline budget (some next) rest

/-- Runs a simple command. -/
def simple : Nat → List (Raw × Word) → List Word → List Redirection → Run Unit
  | 0, _, _, _ => throw .exhausted
  | budget + 1, assignments, parts, redirections => do
    modifyEnv fun e => { e with outputStatus := none }
    match ← words budget parts with
    | [] =>
      keepingDescriptors do
        if ← redirect budget redirections then
          assignAll budget false assignments
          modifyEnv fun e => { e with status := e.outputStatus.getD 0 }
        else setStatus 2
    | name :: arguments =>
      if name = "exec".toList then
        if !(← redirect budget redirections) then throw (.leave 2)
        assignAll budget true assignments
        match arguments with
        | [] => setStatus 0
        | name :: arguments =>
          invoke budget name arguments
          throw (.leave (← get).env.status)
      else
        keepingDescriptors do
          if ← redirect budget redirections then
            if isSpecial name then
              assignAll budget false assignments
              builtin budget name arguments
            else
              let saved := (← get).env.bindings
              assignAll budget true assignments
              match (← get).env.functions.lookup name with
              | some body => callFunction budget body arguments
              | none =>
                if isBuiltin name then builtin budget name arguments
                else invoke budget name arguments
              if !assignments.isEmpty then
                modifyEnv fun e => { e with bindings := saved }
          else if isSpecial name then throw (.leave 2)
          else setStatus 2

/-- Runs a function with arguments of its own. -/
def callFunction : Nat → Command → List Raw → Run Unit
  | 0, _, _ => throw .exhausted
  | budget + 1, body, arguments => do
    let saved := (← get).env.arguments
    modifyEnv fun e => { e with arguments }
    try command budget body
    catch
      | .giveBack => pure ()
      | jump => throw jump
    modifyEnv fun e => { e with arguments := saved }

/-- Runs a command of the shell itself. -/
def builtin : Nat → Raw → List Raw → Run Unit
  | 0, _, _ => throw .exhausted
  | budget + 1, name, arguments => do
    match String.ofList name with
    | ":" | "true" | "times" | "umask" | "wait" => setStatus 0
    | "false" => setStatus 1
    | "echo" =>
      writeTo 1 (Print.echo arguments)
      setStatus 0
    | "printf" => printf arguments
    | "test" => test "test" arguments
    | "[" => bracket arguments
    | "kill" => kill arguments fun action => script budget action
    | "pwd" =>
      writeTo 1 (Raw.ofString (Path.render (← get).env.here) ++ ['\n'])
      setStatus 0
    | "cd" => cd arguments
    | "read" => read arguments
    | "export" | "readonly" => exportAll arguments
    | "local" => setAll arguments
    | "unset" =>
      for n in arguments do modifyEnv fun e => e.unset n
      setStatus 0
    | "set" => setCommand arguments (arguments.length + 1)
    | "shift" => shift arguments
    | "trap" => trap arguments
    | "type" => locate arguments
    | "command" =>
      match arguments with
      | ['-', 'v'] :: names => locate names
      | [] => setStatus 0
      | name :: arguments =>
        if isBuiltin name then builtin budget name arguments else invoke budget name arguments
    | "exit" =>
      match arguments with
      | [] => throw (.leave (← get).env.status)
      | n :: _ => throw (.leave (← statusOf n))
    | "return" =>
      match arguments with
      | [] => throw .giveBack
      | n :: _ =>
        setStatus (← statusOf n)
        throw .giveBack
    | "break" => throw (.breakLoop (← levels arguments))
    | "continue" => throw (.nextTurn (← levels arguments))
    | "eval" => script budget ([' '].intercalate arguments)
    | "." => do
      let path := arguments.headD []
      let s ← get
      match s.world.tree.read s.env.here (Raw.toString path) with
      | .ok bytes => script budget (Raw.ofBytes bytes)
      | .error e => abort (openFault path false e)
    | _ => setStatus 127

/-- Finds and runs a program. -/
def invoke : Nat → Raw → List Raw → Run Unit
  | 0, _, _ => throw .exhausted
  | budget + 1, name, arguments => do
    match find (← get) name with
    | .nowhere =>
      report (Raw.toString name ++ ": not found")
      setStatus 127
    | .denied =>
      report (Raw.toString name ++ ": Permission denied")
      setStatus 126
    | .program place path =>
      let saved := (← get).env
      let status ← (do
        try
          program budget place name path arguments
          return (← get).env.status
        catch
          | .leave status => return status
          | .signal n =>
            modifyEnv fun _ => saved
            writeTo 2 (Raw.ofString (signalText n ++ "\n"))
            return 128 + n
          | .exhausted => throw .exhausted
          | _ => return (← get).env.status)
      modifyEnv fun _ => { saved with status }

/-- Runs the program at a place. `name` is what it is called by, and `path` leads to it. -/
def program : Nat → Place → Raw → Raw → List Raw → Run Unit
  | 0, _, _, _, _ => throw .exhausted
  | budget + 1, place, name, path, arguments => do
    let s ← get
    match s.world.tree.find? place with
    | some (.tool "dash") =>
      modifyEnv fun e => child e name arguments
      shell budget arguments
    | some (.tool tool) =>
      modifyEnv fun e => child e name arguments
      if builtinNames.contains tool then builtin budget tool.toList arguments
      else utility tool arguments
    | some (.file bytes _) =>
      match interpreter? (Raw.ofBytes bytes) with
      | none =>
        modifyEnv fun e => child e path arguments
        mainScript budget (Raw.ofBytes bytes)
      | some (interpreter, option) =>
        match s.world.tree.stat s.env.here (Raw.toString interpreter) with
        | .ok (place, entry) =>
          if entry.isFile && entry.isExecutable then
            program budget place interpreter interpreter (option ++ path :: arguments)
          else
            report (Raw.toString name ++ ": Permission denied")
            setStatus 126
        | .error _ =>
          report (Raw.toString name ++ ": not found")
          setStatus 127
    | _ => setStatus 126

/-- A shell with its arguments: options, and then a script, a file with one, or nothing. -/
def shell : Nat → List Raw → Run Unit
  | 0, _ => throw .exhausted
  | budget + 1, arguments => do
    match arguments with
    | ['-', '-'] :: rest => shellFile budget rest
    | ('-' :: c :: letters) :: rest =>
      for l in c :: letters do setOption true l
      if (c :: letters).contains 'c' then
        match rest with
        | [] =>
          modifyEnv fun e => { e with line := 0 }
          abort "-c requires an argument"
        | text :: rest =>
          match rest with
          | [] => modifyEnv fun e => { e with arguments := [] }
          | name :: arguments => modifyEnv fun e => { e with name, arguments }
          mainScript budget text
      else shell budget rest
    | rest => shellFile budget rest

/-- A shell that runs a file, or what it is given to read. -/
def shellFile : Nat → List Raw → Run Unit
  | 0, _ => throw .exhausted
  | budget + 1, arguments => do
    match arguments with
    | [] =>
      let (text, _) ← inputOf 0
      setInput 0 []
      modifyEnv fun e => { e with arguments := [] }
      mainScript budget text
    | path :: arguments =>
      let s ← get
      match s.world.tree.read s.env.here (Raw.toString path) with
      | .ok bytes =>
        modifyEnv fun e => { e with name := path, arguments }
        mainScript budget (Raw.ofBytes bytes)
      | .error e =>
        modifyEnv fun e => { e with line := 0 }
        abort (openFault path false e)

/-- A script that is all a shell runs; at its end comes what is to be done then. -/
def mainScript : Nat → Raw → Run Unit
  | 0, _ => throw .exhausted
  | budget + 1, text => do
    let status ← (do
      try
        script budget text
        return (← get).env.status
      catch
        | .leave status => return status
        | .giveBack => return (← get).env.status
        | jump => throw jump)
    setStatus status
    match (← get).env.traps.lookup 0 with
    | none => pure ()
    | some action =>
      modifyEnv fun e => { e with traps := e.traps.filter (·.1 != 0) }
      script budget action
    throw (.leave status)

/-- Runs a script line by line. -/
def script : Nat → Raw → Run Unit
  | 0, _ => throw .exhausted
  | budget + 1, text => lines budget (text.count '\n') text

def lines : Nat → Nat → Raw → Run Unit
  | 0, _, _ => throw .exhausted
  | budget + 1, total, text => do
    match Grammar.next total text with
    | .error (line, message) =>
      modifyEnv fun e => { e with line }
      abort message
    | .ok (none, _) => return ()
    | .ok (some c, rest) =>
      command budget c
      lines budget total rest

end

end Exec

end Playground.Shell
