import Playground.Shell.Grammar
import Playground.Text.Digits

/-!
# Arithmetic

Expressions over 64-bit numbers and parameters. A parameter that is not set counts as zero, and
truth is one.

* `Arithmetic.evaluate` — the value of an expression and the assignments that it makes.
-/

set_option autoImplicit false

namespace Playground.Shell

namespace Arithmetic

/-- What an evaluation works on: the rest of the expression, and the parameters. -/
structure State where
  rest : Raw
  /-- The value of a parameter, as text. -/
  value : Raw → Option Raw
  /-- The assignments made so far, the last one first. -/
  assigned : List (Raw × Int)

abbrev Eval := ExceptT String (StateM State)

/-- Numbers have 64 bits. -/
def wrap (n : Int) : Int := n.bmod (Nat.pow 2 64)

def truth (b : Bool) : Int := if b then 1 else 0

def isSpace (c : Char) : Bool := c = ' ' || c = '\t' || c = '\n'

/-- A number in base ten, eight or sixteen, according to its front. -/
def number? (digits : Raw) : Option Int :=
  let value := match digits with
    | '0' :: 'x' :: digits | '0' :: 'X' :: digits => Text.Digits.value? 16 digits
    | ['0'] => some 0
    | '0' :: digits => Text.Digits.value? 8 digits
    | digits => Text.Digits.value? 10 digits
  value.map fun n => wrap n

/-- The number that the value of a parameter is. -/
def ofValue? (value : Raw) : Option Int :=
  match (value.dropWhile isSpace).reverse.dropWhile isSpace |>.reverse with
  | [] => some 0
  | '-' :: digits => (- ·) <$> number? digits
  | '+' :: digits => number? digits
  | digits => number? digits

def syntaxFault : String := "arithmetic expression: expecting primary"

def skip : Eval Unit := modify fun s => { s with rest := s.rest.dropWhile isSpace }

/-- Takes an operator off the expression, unless it is the front of a longer one. -/
def operator? (sign : String) (notBefore : String) : Eval Bool := do
  skip
  let s ← get
  let rest := s.rest.drop sign.length
  let blocked := match rest with
    | c :: _ => notBefore.toList.contains c
    | [] => false
  if sign.toList.isPrefixOf s.rest && !blocked then
    set { s with rest }
    return true
  else return false

def assign (name : Raw) (n : Int) : Eval Int := do
  modify fun s => { s with assigned := (name, n) :: s.assigned }
  return n

/-- The value of a parameter. -/
def parameter (name : Raw) : Eval Int := do
  let s ← get
  match s.assigned.lookup name with
  | some n => return n
  | none =>
    match ofValue? ((s.value name).getD []) with
    | some n => return n
    | none => throw ("Illegal number: " ++ String.ofList ((s.value name).getD []))

/-- A quotient rounded toward zero, or a remainder with the sign of the dividend. -/
def divide (quotient : Bool) (a b : Int) : Eval Int :=
  if b = 0 then throw "arithmetic expression: division by zero"
  else return wrap (if quotient then a.tdiv b else a.tmod b)

/-- The operators with two operands, from the loosest to the tightest; each with the signs that may
not follow it. -/
def levels : List (List (String × String × (Int → Int → Eval Int))) :=
  [[("||", "", fun a b => return truth (a != 0 || b != 0))],
    [("&&", "", fun a b => return truth (a != 0 && b != 0))],
    [("|", "|", fun a b => return (Int64.ofInt a ||| Int64.ofInt b).toInt)],
    [("^", "", fun a b => return (Int64.ofInt a ^^^ Int64.ofInt b).toInt)],
    [("&", "&", fun a b => return (Int64.ofInt a &&& Int64.ofInt b).toInt)],
    [("==", "", fun a b => return truth (a = b)), ("!=", "", fun a b => return truth (a != b))],
    [("<=", "", fun a b => return truth (a ≤ b)), (">=", "", fun a b => return truth (b ≤ a)),
      ("<", "<", fun a b => return truth (a < b)), (">", ">", fun a b => return truth (b < a))],
    [("<<", "", fun a b => return (Int64.ofInt a <<< Int64.ofInt b).toInt),
      (">>", "", fun a b => return (Int64.ofInt a >>> Int64.ofInt b).toInt)],
    [("+", "", fun a b => return wrap (a + b)), ("-", "", fun a b => return wrap (a - b))],
    [("*", "", fun a b => return wrap (a * b)), ("/", "", divide true), ("%", "", divide false)]]

/-- The first operator of a level that comes next. -/
def firstOperator :
    List (String × String × (Int → Int → Eval Int)) → Eval (Option (Int → Int → Eval Int))
  | [] => return none
  | (sign, notBefore, f) :: rest => do
    if ← operator? sign notBefore then return some f else firstOperator rest

/-- The operators that change a parameter. -/
def assignments : List (String × String × (Int → Int → Eval Int)) :=
  [("=", "=", fun _ b => return b), ("+=", "", fun a b => return wrap (a + b)),
    ("-=", "", fun a b => return wrap (a - b)), ("*=", "", fun a b => return wrap (a * b)),
    ("/=", "", divide true), ("%=", "", divide false)]

mutual

/-- An expression: an assignment, or a choice of two values. -/
def expression : Nat → Eval Int
  | 0 => throw syntaxFault
  | budget + 1 => do
    skip
    let s ← get
    let name := s.rest.takeWhile Grammar.isNameChar
    if Grammar.isName name then
      set { s with rest := s.rest.drop name.length }
      match ← firstOperator assignments with
      | some f =>
        let b ← expression budget
        return ← assign name (← f (← parameterOr name) b)
      | none => set s
    let condition ← binary budget levels
    if ← operator? "?" "" then
      let a ← expression budget
      if !(← operator? ":" "") then throw "arithmetic expression: expecting ':'"
      let b ← expression budget
      return if condition != 0 then a else b
    else return condition

/-- The value of a parameter that is about to change; it need not be a number. -/
def parameterOr (name : Raw) : Eval Int := do
  let s ← get
  match s.assigned.lookup name with
  | some n => return n
  | none => return (ofValue? ((s.value name).getD [])).getD 0

/-- Operands with the operators of the given levels between them. -/
def binary : Nat → List (List (String × String × (Int → Int → Eval Int))) → Eval Int
  | 0, _ => throw syntaxFault
  | budget + 1, [] => unary budget
  | budget + 1, level :: tighter => do
    binaryTail budget level tighter (← binary budget tighter)

def binaryTail : Nat → List (String × String × (Int → Int → Eval Int)) →
    List (List (String × String × (Int → Int → Eval Int))) → Int → Eval Int
  | 0, _, _, a => return a
  | budget + 1, level, tighter, a => do
    match ← firstOperator level with
    | some f => binaryTail budget level tighter (← f a (← binary budget tighter))
    | none => return a

/-- An operand with the signs in front of it. -/
def unary : Nat → Eval Int
  | 0 => throw syntaxFault
  | budget + 1 => do
    if ← operator? "-" "" then return wrap (- (← unary budget))
    else if ← operator? "+" "" then unary budget
    else if ← operator? "!" "=" then return truth ((← unary budget) = 0)
    else if ← operator? "~" "" then return (~~~ (Int64.ofInt (← unary budget))).toInt
    else if ← operator? "(" "" then
      let n ← expression budget
      if !(← operator? ")" "") then throw "arithmetic expression: expecting ')'"
      return n
    else
      let s ← get
      let word := s.rest.takeWhile Grammar.isNameChar
      set { s with rest := s.rest.drop word.length }
      if Grammar.isName word then parameter word
      else
        match number? word with
        | some n => return n
        | none => throw syntaxFault

end

/-- The value of an expression and the assignments that it makes, the last one first. -/
def evaluate (value : Raw → Option Raw) (text : Raw) :
    Except String (Int × List (Raw × Int)) :=
  if text.all isSpace then .ok (0, [])
  else
    let run : Eval Int := do
      let n ← expression (16 * text.length + 32)
      skip
      if !(← get).rest.isEmpty then throw "arithmetic expression: expecting EOF"
      return n
    match run.run.run ⟨text, value, []⟩ with
    | (.ok n, s) => .ok (n, s.assigned)
    | (.error e, _) => .error e

end Arithmetic

end Playground.Shell
