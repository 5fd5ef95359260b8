import Playground.Files.Tree
import Playground.Shell.Arithmetic

/-!
# Conditions

The expressions of `test`: questions about files, texts and numbers, joined by `!`, `-a` and `-o`.

* `Condition.evaluate` — whether an expression is true, or what is wrong with it.
-/

set_option autoImplicit false

namespace Playground.Shell

open Files

namespace Condition

/-- What questions can be about. -/
structure Facts where
  tree : Tree
  here : Place

/-- The answer to a question about one operand. -/
def unary? (facts : Facts) (question : Raw) (operand : Raw) : Option Bool :=
  let followed := (facts.tree.stat facts.here (Raw.toString operand)).toOption.map (·.2)
  let itself := (facts.tree.statLink facts.here (Raw.toString operand)).toOption.map (·.2)
  match String.ofList question with
  | "-n" => some (!operand.isEmpty)
  | "-z" => some operand.isEmpty
  | "-e" | "-r" => some followed.isSome
  | "-w" => some followed.isSome
  | "-f" => some (followed.any Entry.isFile)
  | "-d" => some (followed.any Entry.isDirectory)
  | "-s" => some (followed.any fun e => e.isDirectory || !e.bytes.isEmpty || !e.isFile)
  | "-x" => some (followed.any fun e => e.isDirectory || e.isExecutable)
  | "-L" | "-h" => some (itself.any fun e => match e with
      | .link _ => true
      | _ => false)
  | "-c" => some (followed == some .null)
  | "-t" | "-b" | "-p" | "-S" | "-g" | "-u" | "-k" => some false
  | _ => none

def number (s : Raw) : Except String Int :=
  match Arithmetic.ofValue? s with
  | some n => if s.all Arithmetic.isSpace then .error ("Illegal number: " ++ String.ofList s) else .ok n
  | none => .error ("Illegal number: " ++ String.ofList s)

/-- The answer to a question about two operands; none if the sign between them asks nothing. -/
def binary? (sign : Raw) (a b : Raw) : Option (Except String Bool) :=
  let compare (f : Int → Int → Bool) : Option (Except String Bool) := some do
    return f (← number a) (← number b)
  match String.ofList sign with
  | "=" | "==" => some (.ok (a == b))
  | "!=" => some (.ok (a != b))
  | "<" => some (.ok (decide (a < b)))
  | ">" => some (.ok (decide (b < a)))
  | "-eq" => compare (· == ·)
  | "-ne" => compare (· != ·)
  | "-lt" => compare (· < ·)
  | "-le" => compare (· ≤ ·)
  | "-gt" => compare (· > ·)
  | "-ge" => compare (· ≥ ·)
  | _ => none

abbrev Parse := StateT (List Raw) (Except String)

/-- Takes a word off the expression if it comes next. -/
def word? (word : String) : Parse Bool := do
  match ← get with
  | first :: rest =>
    if String.ofList first = word then
      set rest
      return true
    else return false
  | [] => return false

mutual

def disjunction (facts : Facts) : Nat → Parse Bool
  | 0 => throw "argument expected"
  | budget + 1 => do
    let a ← conjunction facts budget
    if ← word? "-o" then
      let b ← disjunction facts budget
      return a || b
    else return a

def conjunction (facts : Facts) : Nat → Parse Bool
  | 0 => throw "argument expected"
  | budget + 1 => do
    let a ← negation facts budget
    if ← word? "-a" then
      let b ← conjunction facts budget
      return a && b
    else return a

def negation (facts : Facts) : Nat → Parse Bool
  | 0 => throw "argument expected"
  | budget + 1 => do
    match ← get with
    | ['!'] :: rest@(_ :: _) =>
      set rest
      return !(← negation facts budget)
    | _ => question facts budget

/-- A question, a group in parentheses, or a single word, which is true unless it is empty. -/
def question (facts : Facts) : Nat → Parse Bool
  | 0 => throw "argument expected"
  | budget + 1 => do
    match ← get with
    | [] => throw "argument expected"
    | a :: sign :: b :: rest =>
      match binary? sign a b with
      | some answer =>
        set rest
        return ← answer
      | none => single facts budget a (sign :: b :: rest)
    | a :: rest => single facts budget a rest

def single (facts : Facts) : Nat → Raw → List Raw → Parse Bool
  | 0, _, _ => throw "argument expected"
  | budget + 1, a, rest => do
    if a = ['('] && !rest.isEmpty then
      set rest
      let answer ← disjunction facts budget
      if ← word? ")" then return answer else throw "closing paren expected"
    else
      match rest with
      | operand :: rest' =>
        match unary? facts a operand with
        | some answer =>
          set rest'
          return answer
        | none =>
          set rest
          return !a.isEmpty
      | [] =>
        set rest
        return !a.isEmpty

end

/-- Whether an expression is true, or what is wrong with it. No expression is false. -/
def evaluate (facts : Facts) (words : List Raw) : Except String Bool :=
  match words with
  | [] => .ok false
  | words => do
    let (answer, rest) ← (disjunction facts (8 * words.length + 8)).run words
    match rest with
    | [] => return answer
    | w :: _ => throw (String.ofList w ++ ": unexpected operator")

end Condition

end Playground.Shell
