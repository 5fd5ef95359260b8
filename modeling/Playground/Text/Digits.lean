/-!
# Digits

Digits in bases up to sixteen and the numbers they stand for. Only the ASCII digits and letters
count.

* `digit?` — the value of one digit.
* `value?` — the number that a row of digits stands for.
* `padded` — a number in at least so many decimal digits.
-/

set_option autoImplicit false

namespace Playground.Text.Digits

/-- The value of a digit in the given base. -/
def digit? (base : Nat) (c : Char) : Option Nat :=
  let n := c.toNat
  let d :=
    if c.isDigit then n - 48
    else if 'a' ≤ c ∧ c ≤ 'f' then n - 87
    else if 'A' ≤ c ∧ c ≤ 'F' then n - 55
    else base
  if d < base then some d else none

def isDigit (base : Nat) (c : Char) : Bool := (digit? base c).isSome

/-- The number that a row of digits stands for; no digits stand for none. -/
def value? (base : Nat) : List Char → Option Nat
  | [] => none
  | digits =>
    digits.foldl (fun n c => do return (← n) * base + (← digit? base c)) (some 0)

/-- A decimal number with zeros in front up to a width. -/
def padded (width n : Nat) : String :=
  let digits := Nat.toDigits 10 n
  String.ofList (List.replicate (width - digits.length) '0' ++ digits)

end Playground.Text.Digits
