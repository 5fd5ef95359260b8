import Playground.Shell.Arithmetic

/-!
# Printing

The two commands that print their arguments: `echo`, and `printf` with its format.

* `Print.echo`, `Print.format` — what is printed.
-/

set_option autoImplicit false

namespace Playground.Shell

namespace Print

/-- A character that an escape stands for, and what stands behind the escape. A backslash that
begins no escape stands for itself. -/
def escape : Raw → Char × Raw
  | 'a' :: rest => ('\x07', rest)
  | 'b' :: rest => ('\x08', rest)
  | 'f' :: rest => ('\x0c', rest)
  | 'n' :: rest => ('\n', rest)
  | 'r' :: rest => ('\r', rest)
  | 't' :: rest => ('\t', rest)
  | 'v' :: rest => ('\x0b', rest)
  | '\\' :: rest => ('\\', rest)
  | text =>
    let digits := (text.take 3).takeWhile fun c => '0' ≤ c && c ≤ '7'
    if digits.isEmpty then ('\\', text)
    else
      let n := digits.foldl (fun n c => n * 8 + (c.toNat - 48)) 0
      (Char.ofNat (n % 256), text.drop digits.length)

/-- A text with its escapes replaced, and whether printing goes on behind it. The escape `c` ends all
printing, and a zero in front of octal digits does not count. -/
def unescape (done : Raw) : Nat → Raw → Raw × Bool
  | _, [] => (done.reverse, true)
  | 0, _ => (done.reverse, true)
  | _ + 1, '\\' :: 'c' :: _ => (done.reverse, false)
  | budget + 1, '\\' :: rest =>
    let rest := match rest with
      | '0' :: d :: more => if '0' ≤ d && d ≤ '7' then d :: more else rest
      | rest => rest
    let (c, rest) := escape rest
    unescape (c :: done) budget rest
  | budget + 1, c :: rest => unescape (c :: done) budget rest

def unescapeAll (text : Raw) : Raw × Bool := unescape [] text.length text

/-- The arguments with blanks between them, up to one that ends the printing. -/
def joined : List Raw → Raw × Bool
  | [] => ([], true)
  | [last] => unescapeAll last
  | first :: rest =>
    match unescapeAll first with
    | (text, false) => (text, false)
    | (text, true) =>
      let (others, more) := joined rest
      (text ++ ' ' :: others, more)

/-- What `echo` prints. A line end follows unless `-n` comes first or printing was ended. -/
def echo (arguments : List Raw) : Raw :=
  match arguments with
  | ['-', 'n'] :: rest => (joined rest).1
  | arguments =>
    match joined arguments with
    | (text, true) => text ++ ['\n']
    | (text, false) => text

/-! ## Formats -/

/-- What a directive of a format says in front of its letter. -/
structure Flags where
  left : Bool
  zeros : Bool
  plus : Bool
  width : Nat
  precision : Option Nat

/-- What was printed, the arguments that are left, the complaints, and whether printing goes on. -/
structure State where
  output : Raw
  arguments : List Raw
  complaints : List String
  more : Bool

def Flags.fill (f : Flags) (text : Raw) : Raw :=
  let pad := f.width - text.length
  if f.left then text ++ List.replicate pad ' ' else List.replicate pad ' ' ++ text

/-- A number with its sign and at least as many digits as are wanted. -/
def Flags.number (f : Flags) (negative : Bool) (digits : Raw) : Raw :=
  let sign := if negative then ['-'] else if f.plus then ['+'] else []
  let least := match f.precision with
    | some n => n
    | none => if f.zeros && !f.left then f.width - sign.length else 0
  f.fill (sign ++ List.replicate (least - digits.length) '0' ++ digits)

/-- The number that an argument stands for: a character behind a quote is its own number. -/
def numberOf (argument : Raw) : Except String Int :=
  match argument with
  | [] => .ok 0
  | '\'' :: c :: _ | '"' :: c :: _ => .ok c.toNat
  | argument =>
    match Arithmetic.ofValue? argument with
    | some n => .ok n
    | none => .error (String.ofList argument ++ ": expected numeric value")

def digitsOf (letter : Char) (n : Nat) : Raw :=
  if letter = 'o' then Nat.toDigits 8 n
  else if letter = 'x' then Nat.toDigits 16 n
  else if letter = 'X' then (Nat.toDigits 16 n).map Char.toUpper
  else Nat.toDigits 10 n

/-- What a directive prints for an argument. -/
def directive (f : Flags) (letter : Char) (s : State) : State :=
  let argument := s.arguments.headD []
  let s := { s with arguments := s.arguments.tail }
  let cut (text : Raw) : Raw := match f.precision with
    | some n => text.take n
    | none => text
  if letter = 's' then { s with output := s.output ++ f.fill (cut argument) }
  else if letter = 'b' then
    let (text, more) := unescapeAll argument
    { s with output := s.output ++ f.fill (cut text), more }
  else if letter = 'c' then { s with output := s.output ++ f.fill (argument.take 1) }
  else if "diouxX".toList.contains letter then
    let (n, complaints) := match numberOf argument with
      | .ok n => (n, s.complaints)
      | .error e => (0, s.complaints ++ [e])
    let signed := letter = 'd' || letter = 'i'
    let magnitude := if signed then n.natAbs else (n % Int.pow 2 64).toNat
    let text := f.number (signed && n < 0) (digitsOf letter magnitude)
    { s with output := s.output ++ text, complaints }
  else
    { s with
      complaints := s.complaints ++ ["%" ++ String.ofList [letter] ++ ": invalid directive"]
      more := false }

/-- The flags at the front of a directive, and what stands behind them. -/
def readFlags (f : Flags) : Raw → Flags × Raw
  | '-' :: rest => readFlags { f with left := true } rest
  | '0' :: rest => readFlags { f with zeros := true } rest
  | '+' :: rest => readFlags { f with plus := true } rest
  | ' ' :: rest => readFlags f rest
  | '#' :: rest => readFlags f rest
  | rest => (f, rest)

/-- A number, or the next argument if a star stands for it. -/
def readCount (s : State) (text : Raw) : Nat × State × Raw :=
  match text with
  | '*' :: rest =>
    let n := ((Arithmetic.ofValue? (s.arguments.headD [])).getD 0).toNat
    (n, { s with arguments := s.arguments.tail }, rest)
  | text =>
    let digits := text.takeWhile Char.isDigit
    ((Text.Digits.value? 10 digits).getD 0, s, text.drop digits.length)

/-- One pass through a format. The budget bounds the number of its parts. -/
def pass (s : State) : Nat → Raw → State
  | 0, _ => s
  | _, [] => s
  | budget + 1, c :: rest =>
    if !s.more then s
    else if c = '\\' then
      let (c, rest) := escape rest
      pass { s with output := s.output ++ [c] } budget rest
    else if c = '%' then
      match rest with
      | '%' :: rest => pass { s with output := s.output ++ ['%'] } budget rest
      | rest =>
        let (f, rest) := readFlags ⟨false, false, false, 0, none⟩ rest
        let (width, s, rest) := readCount s rest
        let (precision, s, rest) := match rest with
          | '.' :: rest =>
            let (n, s, rest) := readCount s rest
            (some n, s, rest)
          | rest => (none, s, rest)
        match rest with
        | [] => { s with complaints := s.complaints ++ ["missing format character"], more := false }
        | letter :: rest => pass (directive { f with width, precision } letter s) budget rest
    else pass { s with output := s.output ++ [c] } budget rest

/-- Passes through a format as long as arguments are left that it uses up. -/
def passes (format : Raw) (s : State) : Nat → State
  | 0 => s
  | budget + 1 =>
    let next := pass s (format.length + 1) format
    if next.more && !next.arguments.isEmpty && next.arguments.length < s.arguments.length then
      passes format next budget
    else next

/-- What `printf` prints and complains about. -/
def format (format : Raw) (arguments : List Raw) : Raw × List String :=
  let s := passes format ⟨[], arguments, [], true⟩ (arguments.length + 1)
  (s.output, s.complaints)

end Print

end Playground.Shell
