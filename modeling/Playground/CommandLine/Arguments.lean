import Playground.Limits
import Playground.Text.Digits

/-!
# Arguments

What the command line asks for: a command with its operands and options, and options that go with
every command, which stand in front of it or behind it.

* `Arguments.parse` — the request that arguments make.
-/

set_option autoImplicit false

namespace Playground

namespace Arguments

/-- What is to be done. -/
inductive Action where
  /-- Write a configuration to begin with. -/
  | init (output : String) (force : Bool)
  | compile (source : String)
  | run (source : String) (overrides : Limits)
  | session (source : String)
  | showConfig
  deriving DecidableEq, Repr

/-- What the arguments ask for. -/
inductive Request where
  | act (config : Option String) (action : Action)
  | version
  | help
  deriving DecidableEq, Repr

/-- The value that an option takes. -/
inductive Kind where
  | flag
  /-- A path, which is not empty. -/
  | path
  /-- A number of 32 bits. -/
  | word
  /-- A number of 64 bits. -/
  | size
  | help
  | version
  deriving DecidableEq, Repr

/-- An option: its long name, perhaps a letter, and the value it takes. -/
structure Opt where
  name : String
  letter : Option Char
  kind : Kind
  deriving DecidableEq, Repr

/-- Options that go with every command. -/
def globalOptions : List Opt :=
  [⟨"config", some 'c', .path⟩, ⟨"verbose", some 'v', .flag⟩, ⟨"help", some 'h', .help⟩]

def topOptions : List Opt := globalOptions ++ [⟨"version", some 'V', .version⟩]

/-- The commands with their own options and the number of their operands. -/
def commands : List (String × List Opt × Nat) :=
  [("init", [⟨"output", some 'o', .path⟩, ⟨"force", some 'f', .flag⟩], 0),
    ("compile", [], 1),
    ("run", [⟨"max-memory-pages", none, .word⟩, ⟨"max-output-lines", none, .size⟩], 1),
    ("session", [], 1),
    ("show-config", [], 0)]

/-- Why the arguments make no request to act. -/
inductive Stop where
  | misuse
  | help
  | version
  deriving DecidableEq, Repr

/-- What was read: options with their values, and operands. -/
structure Parsed where
  values : List (String × String)
  operands : List String
  deriving Repr

/-- The digits of a number behind the sign that it may have. -/
def unsigned? (text : String) (minus : Bool) : Option (Bool × Nat) :=
  match text.toList with
  | '+' :: digits => (false, ·) <$> Text.Digits.value? 10 digits
  | '-' :: digits => if minus then (true, ·) <$> Text.Digits.value? 10 digits else none
  | digits => (false, ·) <$> Text.Digits.value? 10 digits

/-- The number of an option; zero may have a minus sign where a signed number is read first. -/
def number? (kind : Kind) (text : String) : Option Nat :=
  match kind with
  | .word =>
    match unsigned? text true with
    | some (negative, n) => if n < Nat.pow 2 32 ∧ (!negative ∨ n = 0) then some n else none
    | none => none
  | _ =>
    match unsigned? text false with
    | some (_, n) => if n < Nat.pow 2 64 then some n else none
    | none => none

/-- Whether an option takes a value. -/
def takes (kind : Kind) (value : String) : Bool :=
  match kind with
  | .path => value != ""
  | .word | .size => (number? kind value).isSome
  | _ => false

def hasValue (kind : Kind) : Bool := kind = .path || kind = .word || kind = .size

/-- Notes an option; each may be given once. -/
def note (p : Parsed) (o : Opt) (value : String) : Except Stop Parsed :=
  if (p.values.lookup o.name).isSome then .error .misuse
  else if hasValue o.kind && !takes o.kind value then .error .misuse
  else .ok { p with values := (o.name, value) :: p.values }

/-- Notes an option without a value. -/
def noteFlag (p : Parsed) (o : Opt) : Except Stop Parsed :=
  match o.kind with
  | .help => .error .help
  | .version => .error .version
  | _ => note p o ""

/-- Whether an argument can be the value of the option in front of it. -/
def isValue (argument : String) : Bool :=
  !(argument.length > 1 && argument.toList.head? = some '-')

/-- The option and its value in an argument with two dashes, if they are in one. -/
def splitLong (text : List Char) : String × Option String :=
  let name := text.takeWhile (· != '=')
  match text.drop name.length with
  | '=' :: value => (String.ofList name, some (String.ofList value))
  | _ => (String.ofList name, none)

/-- Reads the letters of an argument with one dash. The result has the option that still wants a
value, if there is one. -/
def letters (opts : List Opt) (p : Parsed) : List Char → Except Stop (Parsed × Option Opt)
  | [] => .ok (p, none)
  | c :: rest =>
    match opts.find? (·.letter = some c) with
    | none => .error .misuse
    | some o =>
      if hasValue o.kind then
        match rest with
        | [] => .ok (p, some o)
        | '=' :: value => (·, none) <$> note p o (String.ofList value)
        | value => (·, none) <$> note p o (String.ofList value)
      else do
        let p ← noteFlag p o
        letters opts p rest

/-- Reads options and operands. With `stopAt` the first operand ends the reading and is left with
what follows it. -/
def level (opts : List Opt) (stopAt : Bool) (p : Parsed) :
    List String → Except Stop (Parsed × List String)
  | [] => .ok (p, [])
  | "--" :: rest =>
    if stopAt && !rest.isEmpty then .error .misuse
    else .ok ({ p with operands := p.operands ++ rest }, [])
  | argument :: rest =>
    match argument.toList with
    | '-' :: '-' :: text =>
      match splitLong text with
      | (name, value) =>
        match opts.find? (·.name = name), value with
        | none, _ => .error .misuse
        | some o, some value =>
          if hasValue o.kind then do
            let p ← note p o value
            level opts stopAt p rest
          else .error .misuse
        | some o, none =>
          if hasValue o.kind then
            match rest with
            | [] => .error .misuse
            | value :: rest =>
              if isValue value then do
                let p ← note p o value
                level opts stopAt p rest
              else .error .misuse
          else do
            let p ← noteFlag p o
            level opts stopAt p rest
    | '-' :: c :: text =>
      match letters opts p (c :: text) with
      | .error stop => .error stop
      | .ok (p, none) => level opts stopAt p rest
      | .ok (p, some o) =>
        match rest with
        | [] => .error .misuse
        | value :: rest =>
          if isValue value then do
            let p ← note p o value
            level opts stopAt p rest
          else .error .misuse
    | _ =>
      if stopAt then .ok (p, argument :: rest)
      else level opts stopAt { p with operands := p.operands ++ [argument] } rest

/-- The action of a command with what was read for it. -/
def action? (name : String) (p : Parsed) : Option Action :=
  match name, p.operands with
  | "init", [] =>
    some (.init ((p.values.lookup "output").getD "halcyon.toml") (p.values.lookup "force").isSome)
  | "compile", [source] => some (.compile source)
  | "run", [source] =>
    some (.run source
      ⟨p.values.lookup "max-memory-pages" >>= number? .word,
        p.values.lookup "max-output-lines" >>= number? .size⟩)
  | "session", [source] => some (.session source)
  | "show-config", [] => some .showConfig
  | _, _ => none

/-- Reads a command and what follows it; `top` is what was read in front of it. -/
def command (top : Parsed) (name : String) (rest : List String) : Except Stop Request :=
  match commands.lookup name with
  | none =>
    if name = "help" then
      match rest with
      | [] => .error .help
      | [other] => .error (if other = "help" || (commands.lookup other).isSome then .help else .misuse)
      | _ => .error .misuse
    else .error .misuse
  | some (own, operands) => do
    let (p, _) ← level (own ++ globalOptions) false ⟨[], []⟩ rest
    if p.operands.length != operands || p.operands.contains "" then throw .misuse
    match action? name p with
    | some action => return .act ((p.values.lookup "config").or (top.values.lookup "config")) action
    | none => throw .misuse

/-- The request that arguments make; none if they make no sense. -/
def parse (arguments : List String) : Option Request :=
  let request : Except Stop Request := do
    match ← level topOptions true ⟨[], []⟩ arguments with
    | (_, []) => throw .misuse
    | (top, name :: rest) => command top name rest
  match request with
  | .ok r => some r
  | .error .help => some .help
  | .error .version => some .version
  | .error .misuse => none

end Arguments

end Playground
