/-!
# Scanning text

A scanner takes what it wants from the front of a text, or fails.

* `next`, `takeWhile`, `word?` — the steps that scanners are made of.
* `between` — items between commas up to a closing character.
* `whole` — a scanner that must use up its text.
-/

set_option autoImplicit false

namespace Playground.Text

/-- A scanner of a value from the front of a text. -/
abbrev Scan := StateT (List Char) Option

namespace Scan

variable {α : Type}

def fail : Scan α := fun _ => none

/-- The next character. -/
def next : Scan Char := fun
  | [] => none
  | c :: rest => some (c, rest)

/-- The next character, left in place; `none` at the end. -/
def peek : Scan (Option Char) := fun text => some (text.head?, text)

/-- Whether the text is used up. -/
def atEnd : Scan Bool := fun text => some (text.isEmpty, text)

/-- The longest run of characters of a class. -/
def takeWhile (p : Char → Bool) : Scan (List Char) := fun text =>
  some (text.takeWhile p, text.dropWhile p)

/-- The next `n` characters. -/
def take (n : Nat) : Scan (List Char) := fun text =>
  if text.length < n then none else some (text.splitAt n)

/-- Takes a word off the text if the text begins with it. -/
def word? (word : String) : Scan Bool := fun text =>
  if word.toList.isPrefixOf text then some (true, text.drop word.length) else some (false, text)

/-- Requires `condition`. -/
def require (condition : Bool) : Scan Unit := if condition then pure () else fail

/-- Takes one given character. -/
def expect (c : Char) : Scan Unit := do require ((← next) = c)

/-- Leaves of the text what `f` leaves. -/
def drop (f : List Char → List Char) : Scan Unit := fun text => some ((), f text)

/-- Number of characters left, which bounds what loops can do. -/
def left : Scan Nat := fun text => some (text.length, text)

/-- Items between commas up to `close`, with `blank` taken off around every one of them. A comma may
follow the last item if `trailing` says so. -/
def items (blank : List Char → List Char) (trailing : Bool) (close : Char) (item : Scan α)
    (done : Array α) : Nat → Scan (List α)
  | 0 => fail
  | n + 1 => do
    drop blank
    if (← peek) = some close ∧ (done.isEmpty ∨ trailing) then
      expect close
      return done.toList
    let a ← item
    drop blank
    match ← next with
    | ',' => items blank trailing close item (done.push a) n
    | c => do
      require (c = close)
      return (done.push a).toList

/-- All items up to `close`. -/
def between (blank : List Char → List Char) (trailing : Bool) (close : Char) (item : Scan α) :
    Scan (List α) := do
  items blank trailing close item #[] ((← left) + 1)

/-- What a scanner makes of a text that it uses up. -/
def whole (scan : Scan α) (text : List Char) : Option α :=
  match scan text with
  | some (a, []) => some a
  | _ => none

end Scan

end Playground.Text
