import Playground.Config.Setting
import Playground.Text.Scan

/-!
# JSON

Settings written as JSON. The outermost value must be an object; of equal keys the last one counts.

* `Number.scan` — numbers: whole ones exactly if 64 bits hold them.
* `value` — a value with all its parts.
* `parse` — a whole text.
-/

set_option autoImplicit false

namespace Playground.Config.Json

open Text

def isBlank (c : Char) : Bool := c = ' ' || c = '\n' || c = '\r' || c = '\t'

def dropBlank (text : List Char) : List Char := text.dropWhile isBlank

/-! ## Numbers -/

namespace Number

/-- The digits read so far, and the power of ten that they are to be multiplied by. -/
structure Significand where
  digits : Nat
  exponent : Int

/-- Significands are less than this. -/
def digitBound : Nat := Nat.pow 2 64

def digitOf (c : Char) : Nat := c.toNat - '0'.toNat

/-- Adds the digits of a whole part. Once one does not fit, this and all later ones only count. -/
def addWhole (s : Significand) : List Char → Significand
  | [] => s
  | c :: rest =>
    let digits := s.digits * 10 + digitOf c
    if digits < digitBound then addWhole { s with digits } rest
    else { s with exponent := s.exponent + (c :: rest).length }

/-- Adds the digits of a fraction. The first one that does not fit and all later ones are lost. -/
def addFraction (s : Significand) : List Char → Significand
  | [] => s
  | c :: rest =>
    let digits := s.digits * 10 + digitOf c
    if digits < digitBound then addFraction ⟨digits, s.exponent - 1⟩ rest else s

/-- The power of ten with an exponent up to 308. -/
def power (n : Nat) : Float := Float.ofScientific 1 false n

/-- Greatest exponent of a power of ten that is finite. -/
def topPower : Nat := 308

/-- Divides by `10 ^ n` in steps of finite powers, each of which is rounded. Three steps lead to
zero from anywhere. -/
def divide (x : Float) : Nat → Nat → Float
  | 0, n => if n ≤ topPower then x / power n else 0
  | steps + 1, n =>
    if n ≤ topPower then x / power n else divide (x / power topPower) steps (n - topPower)

/-- The floating-point number of a significand: one rounding for the digits and one for the power
of ten. None if it is infinite. -/
def scaled? (s : Significand) : Option Float :=
  let x := s.digits.toFloat
  if s.exponent < 0 then some (divide x 2 s.exponent.natAbs)
  else if s.digits = 0 then some 0
  else if topPower < s.exponent then none
  else
    let x := x * power s.exponent.toNat
    if x.isInf then none else some x

def digits : Scan (List Char) := do
  let digits ← Scan.takeWhile Char.isDigit
  Scan.require (!digits.isEmpty)
  return digits

/-- The whole part: a zero, or digits that do not begin with one. -/
def whole : Scan (List Char) := do
  let digits ← digits
  Scan.require (digits.length = 1 || digits.head? != some '0')
  return digits

/-- The digits behind the point, if there is one. -/
def fraction : Scan (Option (List Char)) := do
  if ← Scan.word? "." then return some (← digits) else return none

/-- The exponent, if there is one. -/
def exponent : Scan (Option Int) := do
  if (← Scan.word? "e") || (← Scan.word? "E") then
    let negative ← Scan.word? "-"
    if !negative then
      let _ ← Scan.word? "+"
    let n := (← digits).foldl (fun n c => n * 10 + digitOf c) 0
    return some (if negative then -n else n)
  else return none

/-- A whole number: exact in 64 bits with a sign or without; otherwise rounded. Zero with a minus
sign is not exact. -/
def integer? (negative : Bool) (digits : List Char) : Option Setting :=
  let s := addWhole ⟨0, 0⟩ digits
  let float := (fun x : Float => Setting.float (if negative then -x else x)) <$> scaled? s
  if s.exponent != 0 then float
  else if !negative then some (.integer s.digits)
  else if 0 < s.digits && s.digits ≤ Nat.pow 2 63 then some (.integer (-s.digits))
  else float

/-- A number with a fraction or an exponent. -/
def float? (negative : Bool) (digits fraction : List Char) (exponent : Int) : Option Setting :=
  let s := addFraction (addWhole ⟨0, 0⟩ digits) fraction
  (fun x : Float => .float (if negative then -x else x)) <$>
    scaled? { s with exponent := s.exponent + exponent }

def scan : Scan Setting := do
  let negative ← Scan.word? "-"
  let digits ← whole
  let fraction ← fraction
  let exponent ← exponent
  let value := match fraction, exponent with
    | none, none => integer? negative digits
    | _, _ => float? negative digits (fraction.getD []) (exponent.getD 0)
  match value with
  | some value => return value
  | none => Scan.fail

end Number

/-! ## Texts -/

/-- Four hexadecimal digits. -/
def unit : Scan Nat := do
  match Digits.value? 16 (← Scan.take 4) with
  | some n => return n
  | none => Scan.fail

/-- A character by its number. Two escapes in a row stand for one character beyond the first 65536;
neither of them stands alone. -/
def codePoint : Scan Char := do
  let high ← unit
  if 0xD800 ≤ high && high < 0xDC00 then
    Scan.expect '\\'
    Scan.expect 'u'
    let low ← unit
    Scan.require (0xDC00 ≤ low && low < 0xE000)
    return Char.ofNat (0x10000 + (high - 0xD800) * 0x400 + (low - 0xDC00))
  else
    Scan.require (!(0xDC00 ≤ high && high < 0xE000))
    return Char.ofNat high

def escape : Scan Char := do
  match ← Scan.next with
  | '"' => return '"'
  | '\\' => return '\\'
  | '/' => return '/'
  | 'b' => return '\x08'
  | 'f' => return '\x0c'
  | 'n' => return '\n'
  | 'r' => return '\r'
  | 't' => return '\t'
  | 'u' => codePoint
  | _ => Scan.fail

/-- Reads a text behind its opening quote. -/
def body (done : List Char) : Nat → Scan String
  | 0 => Scan.fail
  | budget + 1 => do
    match ← Scan.next with
    | '"' => return String.ofList done.reverse
    | '\\' => body ((← escape) :: done) budget
    | c =>
      Scan.require (0x20 ≤ c.toNat)
      body (c :: done) budget

def text : Scan String := do
  Scan.expect '"'
  body [] ((← Scan.left) + 1)

/-! ## Values -/

/-- A key and its value, read by `value`. -/
def entry (value : Scan Setting) : Scan (String × Setting) := do
  let key ← text
  Scan.drop dropBlank
  Scan.expect ':'
  Scan.drop dropBlank
  return (key, ← value)

/-- The entries of an object. -/
def object (entries : List (String × Setting)) : Setting :=
  .table (entries.foldl (fun done (key, value) => Setting.insert key value done) [])

/-- A value without parts. -/
def scalar : Scan Setting := do
  if ← Scan.word? "null" then return .null
  else if ← Scan.word? "true" then return .bool true
  else if ← Scan.word? "false" then return .bool false
  else if (← Scan.peek) = some '"' then return .text (← text)
  else Number.scan

/-- How deep lists and objects may be nested. -/
def depthLimit : Nat := 127

/-- A value in which lists and objects are nested at most so deep. -/
def value : Nat → Scan Setting
  | 0 => scalar
  | depth + 1 => do
    match ← Scan.peek with
    | some '[' =>
      Scan.expect '['
      return .list (← Scan.between dropBlank false ']' (value depth))
    | some '\x7b' =>
      Scan.expect '\x7b'
      return object (← Scan.between dropBlank false '\x7d' (entry (value depth)))
    | _ => scalar

/-- A value with blanks around it. -/
def document : Scan Setting := do
  Scan.drop dropBlank
  let v ← value depthLimit
  Scan.drop dropBlank
  return v

/-- The entries of the outermost object; none if the text is no object. -/
def parse (text : String) : Option (List (String × Setting)) :=
  match Scan.whole document text.toList with
  | some (.table entries) => some entries
  | _ => none

end Playground.Config.Json
