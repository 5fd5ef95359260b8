import Playground.Shell.Raw

/-!
# Patterns

Patterns of file names and of case arms: a star stands for any text, a question mark for one
character and brackets for one of some characters. A quoted character stands for itself.

* `Pattern.ofMarked` — the pattern that a text with quoted parts is.
* `Pattern.fits` — whether a pattern fits a whole text.
-/

set_option autoImplicit false

namespace Playground.Shell

/-- A part of a pattern. -/
inductive Atom where
  | char (c : Char)
  | one
  | many
  /-- One character out of ranges, or one out of none of them. -/
  | among (inside : Bool) (ranges : List (Char × Char))
  deriving DecidableEq, Repr

abbrev Pattern := List Atom

/-- A character, and whether it is quoted. -/
abbrev Marked := List (Char × Bool)

namespace Pattern

/-- The ranges of the named classes of characters. -/
def classRanges (name : Raw) : List (Char × Char) :=
  let lower := [('a', 'z')]
  let upper := [('A', 'Z')]
  let digit := [('0', '9')]
  let blank := [(' ', ' '), ('\t', '\t')]
  match String.ofList name with
  | "lower" => lower
  | "upper" => upper
  | "digit" => digit
  | "alpha" => lower ++ upper
  | "alnum" => lower ++ upper ++ digit
  | "blank" => blank
  | "space" => blank ++ [('\n', '\r')]
  | "xdigit" => digit ++ [('a', 'f'), ('A', 'F')]
  | "punct" => [('!', '/'), (':', '@'), ('[', '\x60'), ('\x7b', '~')]
  | "print" => [(' ', '~')]
  | "graph" => [('!', '~')]
  | "cntrl" => [('\x00', '\x1f'), ('\x7f', '\x7f')]
  | _ => []

/-- The ranges between brackets and what stands behind them; none if the brackets are not closed.
`first` says that nothing was read yet, so that a closing bracket stands for itself. -/
def ranges? (first : Bool) (done : List (Char × Char)) :
    Nat → Marked → Option (List (Char × Char) × Marked)
  | 0, _ => none
  | _, [] => none
  | budget + 1, (c, quoted) :: rest =>
    if c = ']' ∧ !quoted ∧ !first then some (done.reverse, rest)
    else if c = '[' ∧ !quoted ∧ rest.head?.map (·.1) = some ':' then
      let name := rest.tail.takeWhile (·.1.isAlpha)
      match rest.tail.dropWhile (·.1.isAlpha) with
      | (':', _) :: (']', _) :: rest =>
        ranges? false ((classRanges (name.map (·.1))).reverse ++ done) budget rest
      | _ => ranges? false (('[', '[') :: done) budget rest
    else
      match rest with
      | ('-', false) :: (d, q) :: more =>
        if d = ']' ∧ !q then ranges? false ((c, c) :: done) budget rest
        else ranges? false ((c, d) :: done) budget more
      | _ => ranges? false ((c, c) :: done) budget rest

/-- The part that brackets stand for, and what stands behind them. -/
def brackets? (text : Marked) : Option (Atom × Marked) :=
  match text with
  | ('!', false) :: rest | ('^', false) :: rest =>
    (ranges? true [] (rest.length + 1) rest).map fun (ranges, rest) => (.among false ranges, rest)
  | rest =>
    (ranges? true [] (rest.length + 1) rest).map fun (ranges, rest) => (.among true ranges, rest)

/-- Reads a pattern; the budget bounds the number of its parts. -/
def read : Nat → Marked → Pattern
  | 0, _ => []
  | _, [] => []
  | budget + 1, (c, quoted) :: rest =>
    if quoted then .char c :: read budget rest
    else if c = '*' then .many :: read budget rest
    else if c = '?' then .one :: read budget rest
    else if c = '[' then
      match brackets? rest with
      | some (atom, rest) => atom :: read budget rest
      | none => .char c :: read budget rest
    else .char c :: read budget rest

/-- The pattern that a text with quoted parts is. -/
def ofMarked (text : Marked) : Pattern := read text.length text

/-- Whether a part stands for a character. -/
def Atom.fits (atom : Atom) (c : Char) : Bool :=
  match atom with
  | .char d => c = d
  | .one => true
  | .many => false
  | .among inside ranges => ranges.any (fun (low, high) => low ≤ c && c ≤ high) = inside

/-- Whether a pattern fits a whole text. -/
def fits : Pattern → Raw → Bool
  | [], text => text.isEmpty
  | .many :: pattern, [] => fits pattern []
  | .many :: pattern, c :: text => fits pattern (c :: text) || fits (.many :: pattern) text
  | _ :: _, [] => false
  | atom :: pattern, c :: text => Atom.fits atom c && fits pattern text
termination_by pattern text => (pattern.length, text.length)

/-- Whether a pattern can stand for more than one text. -/
def isWild (pattern : Pattern) : Bool :=
  pattern.any fun atom => match atom with
    | .char _ => false
    | _ => true

/-- The text without the shortest or longest part at its start that a pattern fits. -/
def trimStart (pattern : Pattern) (longest : Bool) (text : Raw) : Raw :=
  let lengths := List.range (text.length + 1)
  let lengths := if longest then lengths.reverse else lengths
  match lengths.find? fun n => fits pattern (text.take n) with
  | some n => text.drop n
  | none => text

/-- The text without the shortest or longest part at its end that a pattern fits. -/
def trimEnd (pattern : Pattern) (longest : Bool) (text : Raw) : Raw :=
  let lengths := List.range (text.length + 1)
  let lengths := if longest then lengths else lengths.reverse
  match lengths.find? fun n => fits pattern (text.drop n) with
  | some n => text.take n
  | none => text

end Pattern

end Playground.Shell
