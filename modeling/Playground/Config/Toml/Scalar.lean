import Playground.Config.Setting
import Playground.Text.Decimal
import Playground.Text.Scan

/-!
# Scalars

The values of a TOML document that have no parts: truth values, numbers, moments and texts.

* `Number.ofText?` — whole numbers and floating-point numbers.
* `Moment.scan` — a date, a time of day or both, in their normal form.
* `Quotation.scan` — a text in quotes.
-/

set_option autoImplicit false

namespace Playground.Config.Toml

open Text

/-! ## Numbers -/

namespace Number

/-- Digits without the underscores between them; an underscore stands between two digits only. -/
def dropUnderscores (base : Nat) : List Char → Option (List Char)
  | [] => none
  | [c] => if Digits.isDigit base c then some [c] else none
  | c :: '_' :: rest =>
    if Digits.isDigit base c then (c :: ·) <$> dropUnderscores base rest else none
  | c :: rest =>
    if Digits.isDigit base c then (c :: ·) <$> dropUnderscores base rest else none

/-- The number that digits with underscores stand for. -/
def natural? (base : Nat) (text : List Char) : Option Nat :=
  dropUnderscores base text >>= Digits.value? base

/-- The sign of a text, and the text behind it. -/
def sign : List Char → Bool × List Char
  | '-' :: rest => (true, rest)
  | '+' :: rest => (false, rest)
  | text => (false, text)

def negateIf (negative : Bool) (n : Nat) : Int := if negative then -n else n

/-- Whole numbers have 64 bits. -/
def bounded? (n : Int) : Option Int := if -Int.pow 2 63 ≤ n ∧ n < Int.pow 2 63 then some n else none

/-- Whether a whole part has a zero too many at its front. -/
def hasLeadingZero : List Char → Bool
  | '0' :: _ :: _ => true
  | _ => false

/-- A whole number in base ten, or without a sign in base sixteen, eight or two. -/
def integer? (text : List Char) : Option Int :=
  match text with
  | '0' :: 'x' :: digits => natural? 16 digits >>= fun n => bounded? n
  | '0' :: 'o' :: digits => natural? 8 digits >>= fun n => bounded? n
  | '0' :: 'b' :: digits => natural? 2 digits >>= fun n => bounded? n
  | text =>
    let (negative, digits) := sign text
    if hasLeadingZero digits then none
    else natural? 10 digits >>= fun n => bounded? (negateIf negative n)

/-- The parts in front of and behind the first character of a class; none behind it without one. -/
def splitAt (p : Char → Bool) (text : List Char) : List Char × Option (List Char) :=
  (text.takeWhile (!p ·), (text.dropWhile (!p ·)).tail?)

/-- The exponent; zero if there is none. -/
def exponent? : Option (List Char) → Option Int
  | none => some 0
  | some text =>
    let (negative, digits) := sign text
    negateIf negative <$> natural? 10 digits

/-- The digits of a fraction; no digits if there is none. -/
def fraction? : Option (List Char) → Option (List Char)
  | none => some []
  | some text => dropUnderscores 10 text

/-- A number without a sign that has a fraction or an exponent. -/
def magnitude? (text : List Char) : Option Float := do
  let (mantissa, exponent) := splitAt (fun c => c = 'e' || c = 'E') text
  let (whole, fraction) := splitAt (· = '.') mantissa
  if (exponent.isNone && fraction.isNone) || hasLeadingZero whole then none
  let whole ← dropUnderscores 10 whole
  let fraction ← fraction? fraction
  let exponent ← exponent? exponent
  Decimal.float? ⟨← Digits.value? 10 (whole ++ fraction), exponent - fraction.length⟩

/-- A floating-point number; one that is too large is none. -/
def float? (text : List Char) : Option Float :=
  let (negative, text) := sign text
  let x := match text with
    | ['i', 'n', 'f'] => some (1.0 / 0.0)
    | ['n', 'a', 'n'] => some (0.0 / 0.0)
    | text => magnitude? text
  if negative then (- ·) <$> x else x

/-- A number. -/
def ofText? (text : List Char) : Option Setting :=
  (.integer <$> integer? text) <|> (.float <$> float? text)

end Number

/-! ## Moments -/

namespace Moment

/-- A number in exactly so many digits, at least `low` and at most `high`. -/
def field (width low high : Nat) : Scan Nat := do
  match Digits.value? 10 (← Scan.take width) with
  | some n => if low ≤ n ∧ n ≤ high then pure n else Scan.fail
  | none => Scan.fail

def isLeap (year : Nat) : Bool := year % 4 = 0 && (year % 100 != 0 || year % 400 = 0)

def daysIn (year month : Nat) : Nat :=
  if month = 2 then (if isLeap year then 29 else 28)
  else if month = 4 || month = 6 || month = 9 || month = 11 then 30 else 31

/-- A date. -/
def date : Scan String := do
  let year ← field 4 0 9999
  Scan.expect '-'
  let month ← field 2 1 12
  Scan.expect '-'
  let day ← field 2 1 (daysIn year month)
  return Digits.padded 4 year ++ "-" ++ Digits.padded 2 month ++ "-" ++ Digits.padded 2 day

/-- Digits kept of a fraction of a second. -/
def precision : Nat := 9

/-- The digits of a fraction without the zeros at its end. -/
def trimFraction (digits : List Char) : String :=
  match ((digits.take precision).reverse.dropWhile (· = '0')).reverse with
  | [] => ".0"
  | digits => String.ofList ('.' :: digits)

/-- The fraction of a second, if one follows. -/
def fraction : Scan String := do
  if ← Scan.word? "." then
    let digits ← Scan.takeWhile Char.isDigit
    Scan.require (!digits.isEmpty)
    return trimFraction digits
  else return ""

/-- The seconds, if they follow; there may be a leap second. -/
def seconds : Scan String := do
  if ← Scan.word? ":" then
    let second ← field 2 0 60
    return ":" ++ Digits.padded 2 second ++ (← fraction)
  else return ""

/-- A time of day. -/
def time : Scan String := do
  let hour ← field 2 0 23
  Scan.expect ':'
  let minute ← field 2 0 59
  return Digits.padded 2 hour ++ ":" ++ Digits.padded 2 minute ++ (← seconds)

/-- The distance from universal time, if it follows. No distance at all has a plus sign. -/
def offset : Scan String := do
  match ← Scan.peek with
  | none => return ""
  | some 'Z' | some 'z' =>
    let _ ← Scan.next
    return "Z"
  | some _ =>
    let sign ← Scan.next
    Scan.require (sign = '+' || sign = '-')
    let hour ← field 2 0 23
    Scan.expect ':'
    let minute ← field 2 0 59
    let sign := if sign = '-' && hour + minute != 0 then "-" else "+"
    return sign ++ Digits.padded 2 hour ++ ":" ++ Digits.padded 2 minute

/-- The time behind a date, if one follows. -/
def afterDate : Scan String := do
  if ← Scan.atEnd then return ""
  let mark ← Scan.next
  Scan.require (mark = 'T' || mark = 't' || mark = ' ')
  return "T" ++ (← time) ++ (← offset)

/-- A moment in its normal form. -/
def ofText? (text : List Char) : Option String :=
  Scan.whole (do return (← date) ++ (← afterDate)) text <|> Scan.whole time text

end Moment

/-! ## Bare scalars -/

namespace Bare

/-- Characters of truth values, numbers and moments. -/
def isChar (c : Char) : Bool :=
  c.isAlphanum || c = '_' || c = '+' || c = '-' || c = '.' || c = ':'

/-- The characters of a bare scalar. A date is joined to the time behind a blank. -/
def chars : Scan (List Char) := do
  let first ← Scan.takeWhile isChar
  if (Scan.whole Moment.date first).isNone then return first
  fun text =>
    match text with
    | ' ' :: c :: rest =>
      if c.isDigit then
        some (first ++ ' ' :: (c :: rest).takeWhile isChar, (c :: rest).dropWhile isChar)
      else some (first, text)
    | _ => some (first, text)

/-- The value of a bare scalar. -/
def ofText? (text : List Char) : Option Setting :=
  match text with
  | ['t', 'r', 'u', 'e'] => some (.bool true)
  | ['f', 'a', 'l', 's', 'e'] => some (.bool false)
  | text => (.text <$> Moment.ofText? text) <|> Number.ofText? text

/-- A truth value, a number or a moment. -/
def scan : Scan Setting := do
  match ofText? (← chars) with
  | some s => pure s
  | none => Scan.fail

end Bare

/-! ## Quoted texts -/

namespace Quotation

/-- Characters that may stand in texts and comments as they are. -/
def isPlain (c : Char) : Bool := c = '\t' || (0x20 ≤ c.toNat && c.toNat != 0x7F)

/-- The character with a number of so many hexadecimal digits. -/
def codePoint (width : Nat) : Scan Char := do
  match Digits.value? 16 (← Scan.take width) with
  | some n => if n.isValidChar then pure (Char.ofNat n) else Scan.fail
  | none => Scan.fail

/-- The character that stands for the escape behind a backslash. -/
def escape : Scan Char := do
  match ← Scan.next with
  | 'b' => return '\x08'
  | 't' => return '\t'
  | 'n' => return '\n'
  | 'f' => return '\x0c'
  | 'r' => return '\r'
  | 'e' => return '\x1b'
  | '"' => return '"'
  | '\\' => return '\\'
  | 'x' => codePoint 2
  | 'u' => codePoint 4
  | 'U' => codePoint 8
  | _ => Scan.fail

def isSpace (c : Char) : Bool := c = ' ' || c = '\t'

/-- Takes a line end off a text that begins with one. -/
def dropLineEnd? : List Char → Option (List Char)
  | '\n' :: rest => some rest
  | '\r' :: '\n' :: rest => some rest
  | _ => none

/-- Takes blanks and line ends off a text; a carriage return only in front of a line feed. -/
def dropBlankLines : List Char → List Char
  | '\n' :: rest => dropBlankLines rest
  | '\r' :: '\n' :: rest => dropBlankLines rest
  | c :: rest => if isSpace c then dropBlankLines rest else c :: rest
  | [] => []

/-- Takes off a line end that only blanks precede, and all blanks and line ends behind it. -/
def joinLines : Scan Bool := fun text =>
  match dropLineEnd? (text.dropWhile isSpace) with
  | some rest => some (true, dropBlankLines rest)
  | none => some (false, text)

/-- Greatest number of quotes that can stand together at the end of a text of several lines. -/
def mostQuotes : Nat := 5

/-- Reads a text up to the quotes that end it. In double quotes a backslash begins an escape; with
`lines` the text may have several lines and ends with three quotes, in front of which up to two more
belong to it. -/
def body (quote : Char) (lines : Bool) (done : List Char) : Nat → Scan String
  | 0 => Scan.fail
  | budget + 1 => do
    let c ← Scan.next
    if c = quote then
      if !lines then return String.ofList done.reverse
      let quotes := c :: (← Scan.takeWhile (· = quote))
      if quotes.length < 3 then body quote lines (quotes ++ done) budget
      else
        Scan.require (quotes.length ≤ mostQuotes)
        return String.ofList (quotes.drop 3 ++ done).reverse
    else if c = '\\' && quote = '"' then
      if lines && (← joinLines) then body quote lines done budget
      else body quote lines ((← escape) :: done) budget
    else if c = '\n' && lines then body quote lines ('\n' :: done) budget
    else if c = '\r' && lines then
      Scan.expect '\n'
      body quote lines ('\n' :: '\r' :: done) budget
    else
      Scan.require (isPlain c)
      body quote lines (c :: done) budget

/-- Reads the text behind its opening quotes. -/
def rest (quote : Char) (lines : Bool) : Scan String := do
  body quote lines [] ((← Scan.left) + 1)

/-- A text on one line, from its opening quote on. -/
def line : Scan String := do
  let quote ← Scan.next
  Scan.require (quote = '"' || quote = '\'')
  rest quote false

/-- A text, from its opening quotes on. A line end right behind three quotes does not count. -/
def scan : Scan String := do
  if ← Scan.word? "\"\"\"" then
    Scan.drop fun text => (dropLineEnd? text).getD text
    rest '"' true
  else if ← Scan.word? "'''" then
    Scan.drop fun text => (dropLineEnd? text).getD text
    rest '\'' true
  else line

end Quotation

end Playground.Config.Toml
