/-!
# Numbers in decimal notation

Binary floating-point numbers are read from decimal digits and written with as few of them as read
back as the same number. Exponents are never written.

* `Decimal.float?` — the nearest number; none if that is infinite.
* `Decimal.shortest` — the shortest digits of a positive number.
* `Decimal.render` — a number as text.
-/

set_option autoImplicit false

namespace Playground.Text

/-- The number `digits · 10 ^ exponent`. -/
structure Decimal where
  digits : Nat
  exponent : Int
  deriving DecidableEq, Repr

namespace Decimal

/-- Powers of ten from here on exceed every finite number. -/
def topExponent : Int := 310

/-- Powers of ten from here down are less than half of the least positive number. -/
def bottomExponent : Int := -330

/-- The floating-point number nearest to a decimal one, unless it is out of range. -/
def float? (d : Decimal) : Option Float :=
  let magnitude : Int := d.exponent + (Nat.toDigits 10 d.digits).length
  if d.digits = 0 ∨ magnitude < bottomExponent then some 0
  else if topExponent < magnitude then none
  else
    let x := Float.ofScientific d.digits (d.exponent < 0) d.exponent.natAbs
    if x.isInf then none else some x

/-- The multiple of a power of ten nearest to `n / 4 · 2 ^ q`, the greater one of two, if one lies
between `low / 4 · 2 ^ q` and `high / 4 · 2 ^ q`; the ends count if `closed`. -/
def onGrid? (low n high : Nat) (closed : Bool) (q exponent : Int) : Option Nat :=
  let unit := 4 * Nat.pow 10 exponent.toNat * Nat.pow 2 (-q).toNat
  let scale := Nat.pow 10 (-exponent).toNat * Nat.pow 2 q.toNat
  let inside (k : Nat) : Bool :=
    let x := k * unit
    if closed then low * scale ≤ x && x ≤ high * scale else low * scale < x && x < high * scale
  let below := n * scale / unit
  let above := below + 1
  match inside below, inside above with
  | true, true =>
    if n * scale - below * unit < above * unit - n * scale then some below else some above
  | true, false => some below
  | false, true => some above
  | false, false => none

/-- Tries powers of ten from `10 ^ top` down. -/
def firstGrid (low n high : Nat) (closed : Bool) (q : Int) (top : Int) : Nat → Decimal
  | 0 => ⟨0, 0⟩
  | tries + 1 =>
    match onGrid? low n high closed q top with
    | some digits => ⟨digits, top⟩
    | none => firstGrid low n high closed q (top - 1) tries

/-- The shortest digits that stand for `m · 2 ^ q`: the nearest point of the coarsest decimal grid
that has one between the numbers half way to the two neighbours. `lowest` says that the lower
neighbour is only half as far away. -/
def shortest (m : Nat) (q : Int) (lowest : Bool) : Decimal :=
  firstGrid (4 * m - if lowest then 1 else 2) (4 * m) (4 * m + 2) (m % 2 = 0) q 309 640

/-- Digits with the point where the exponent puts it. -/
def render (d : Decimal) : String :=
  let digits := Nat.toDigits 10 d.digits
  if d.digits = 0 then "0"
  else if 0 ≤ d.exponent then String.ofList (digits ++ List.replicate d.exponent.toNat '0')
  else
    let places := d.exponent.natAbs
    let digits := List.replicate (places + 1 - digits.length) '0' ++ digits
    let (whole, part) := digits.splitAt (digits.length - places)
    String.ofList (whole ++ ['.'] ++ part)

/-- The digits of a number with the given exponent bits and fraction bits. -/
def ofBits (exponent fraction : Nat) : Decimal :=
  if exponent = 0 then (if fraction = 0 then ⟨0, 0⟩ else shortest fraction (-1074) false)
  else shortest (Nat.pow 2 52 + fraction) (exponent - 1075) (fraction = 0 && exponent != 1)

/-- A floating-point number as text. -/
def ofFloat (x : Float) : String :=
  let bits := x.toBits.toNat
  let exponent := bits / Nat.pow 2 52 % Nat.pow 2 11
  let fraction := bits % Nat.pow 2 52
  if exponent = 2047 ∧ fraction ≠ 0 then "NaN"
  else
    let magnitude := if exponent = 2047 then "inf" else (ofBits exponent fraction).render
    if bits < Nat.pow 2 63 then magnitude else "-" ++ magnitude

end Decimal

end Playground.Text
