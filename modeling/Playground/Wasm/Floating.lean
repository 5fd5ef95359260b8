import Playground.Wasm.Types
import Playground.Wasm.Trap

/-!
# Floating-point operations

Numbers are held as their bits. Sign operations work on the bits alone; arithmetic decodes them,
rounds once and encodes the result. A result that is not a number takes over the first operand that
was none, made quiet, and otherwise is `nan32` or `nan64`.

* `FloatUnary`, `FloatBinary`, `FloatCompare` — the operations.
* `eval32`, `eval64` — what they compute on bits.
* `demote`, `promote`, `truncate32`, `truncate64` — changes of width and the way to integers.
-/

set_option autoImplicit false

namespace Playground.Wasm

/-- Operations on one number. -/
inductive FloatUnary where
  | abs | neg | ceil | floor | trunc | nearest | sqrt
  deriving DecidableEq, Repr

/-- Operations on two numbers. -/
inductive FloatBinary where
  | add | sub | mul | div | min | max | copysign
  deriving DecidableEq, Repr

/-- Comparisons of two numbers; all but `ne` are false where one of them is not a number. -/
inductive FloatCompare where
  | eq | ne | lt | gt | le | ge
  deriving DecidableEq, Repr

/-! ## Bits -/

def sign32 : UInt32 := 0x80000000
def sign64 : UInt64 := 0x8000000000000000

/-- The bits of an operation's own result that is not a number. -/
def nan32 : UInt32 := 0xFFC00000
def nan64 : UInt64 := 0xFFF8000000000000

def isNaN32 (a : UInt32) : Bool := (a &&& 0x7FFFFFFF) > 0x7F800000
def isNaN64 (a : UInt64) : Bool := (a &&& 0x7FFFFFFFFFFFFFFF) > 0x7FF0000000000000

/-- The quiet form of bits that are not a number. -/
def quiet32 (a : UInt32) : UInt32 := a ||| 0x00400000
def quiet64 (a : UInt64) : UInt64 := a ||| 0x0008000000000000

def encode32 (x : Float32) : UInt32 := if x.isNaN then nan32 else x.toBits
def encode64 (x : Float) : UInt64 := if x.isNaN then nan64 else x.toBits

/-- An operation on one number that keeps what is not a number. -/
def lift32 (f : Float32 → Float32) (a : UInt32) : UInt32 :=
  if isNaN32 a then quiet32 a else encode32 (f (Float32.ofBits a))

def lift64 (f : Float → Float) (a : UInt64) : UInt64 :=
  if isNaN64 a then quiet64 a else encode64 (f (Float.ofBits a))

/-- An operation on two numbers that keeps the first that is not a number. -/
def liftTwo32 (f : Float32 → Float32 → Float32) (a b : UInt32) : UInt32 :=
  if isNaN32 a then quiet32 a
  else if isNaN32 b then quiet32 b
  else encode32 (f (Float32.ofBits a) (Float32.ofBits b))

def liftTwo64 (f : Float → Float → Float) (a b : UInt64) : UInt64 :=
  if isNaN64 a then quiet64 a
  else if isNaN64 b then quiet64 b
  else encode64 (f (Float.ofBits a) (Float.ofBits b))

/-! ## Rounding to whole numbers -/

/-- Toward zero. -/
def towardZero32 (x : Float32) : Float32 := if x < 0 then x.ceil else x.floor
def towardZero64 (x : Float) : Float := if x < 0 then x.ceil else x.floor

/-- To the nearest whole number, a tie to the even one: adding the least magnitude that has no
fraction bits rounds the fraction away. -/
def toNearest32 (a : UInt32) : UInt32 :=
  let magnitude := Float32.ofBits (a &&& 0x7FFFFFFF)
  let whole : Float32 := 8388608
  if magnitude ≥ whole then a
  else ((magnitude + whole) - whole).toBits ||| (a &&& sign32)

def toNearest64 (a : UInt64) : UInt64 :=
  let magnitude := Float.ofBits (a &&& 0x7FFFFFFFFFFFFFFF)
  let whole : Float := 4503599627370496
  if magnitude ≥ whole then a
  else ((magnitude + whole) - whole).toBits ||| (a &&& sign64)

/-! ## Operations -/

namespace FloatUnary

def eval32 (op : FloatUnary) (a : UInt32) : UInt32 :=
  match op with
  | abs => a &&& 0x7FFFFFFF
  | neg => a ^^^ sign32
  | ceil => lift32 Float32.ceil a
  | floor => lift32 Float32.floor a
  | trunc => lift32 towardZero32 a
  | nearest => if isNaN32 a then quiet32 a else toNearest32 a
  | sqrt => lift32 Float32.sqrt a

def eval64 (op : FloatUnary) (a : UInt64) : UInt64 :=
  match op with
  | abs => a &&& 0x7FFFFFFFFFFFFFFF
  | neg => a ^^^ sign64
  | ceil => lift64 Float.ceil a
  | floor => lift64 Float.floor a
  | trunc => lift64 towardZero64 a
  | nearest => if isNaN64 a then quiet64 a else toNearest64 a
  | sqrt => lift64 Float.sqrt a

end FloatUnary

namespace FloatBinary

/-- The smaller number; of two zeros the negative one. -/
def smaller32 (a b : UInt32) : UInt32 :=
  let x := Float32.ofBits a
  let y := Float32.ofBits b
  if x < y then a else if y < x then b else a ||| b

/-- The greater number; of two zeros the positive one. -/
def greater32 (a b : UInt32) : UInt32 :=
  let x := Float32.ofBits a
  let y := Float32.ofBits b
  if x > y then a else if y > x then b else a &&& b

def smaller64 (a b : UInt64) : UInt64 :=
  let x := Float.ofBits a
  let y := Float.ofBits b
  if x < y then a else if y < x then b else a ||| b

def greater64 (a b : UInt64) : UInt64 :=
  let x := Float.ofBits a
  let y := Float.ofBits b
  if x > y then a else if y > x then b else a &&& b

def eval32 (op : FloatBinary) (a b : UInt32) : UInt32 :=
  match op with
  | add => liftTwo32 (· + ·) a b
  | sub => liftTwo32 (· - ·) a b
  | mul => liftTwo32 (· * ·) a b
  | div => liftTwo32 (· / ·) a b
  | min => if isNaN32 a then quiet32 a else if isNaN32 b then quiet32 b else smaller32 a b
  | max => if isNaN32 a then quiet32 a else if isNaN32 b then quiet32 b else greater32 a b
  | copysign => (a &&& 0x7FFFFFFF) ||| (b &&& sign32)

def eval64 (op : FloatBinary) (a b : UInt64) : UInt64 :=
  match op with
  | add => liftTwo64 (· + ·) a b
  | sub => liftTwo64 (· - ·) a b
  | mul => liftTwo64 (· * ·) a b
  | div => liftTwo64 (· / ·) a b
  | min => if isNaN64 a then quiet64 a else if isNaN64 b then quiet64 b else smaller64 a b
  | max => if isNaN64 a then quiet64 a else if isNaN64 b then quiet64 b else greater64 a b
  | copysign => (a &&& 0x7FFFFFFFFFFFFFFF) ||| (b &&& sign64)

end FloatBinary

namespace FloatCompare

def eval32 (op : FloatCompare) (a b : UInt32) : Bool :=
  let x := Float32.ofBits a
  let y := Float32.ofBits b
  match op with
  | eq => x == y
  | ne => !(x == y)
  | lt => x < y
  | gt => x > y
  | le => x ≤ y
  | ge => x ≥ y

def eval64 (op : FloatCompare) (a b : UInt64) : Bool :=
  let x := Float.ofBits a
  let y := Float.ofBits b
  match op with
  | eq => x == y
  | ne => !(x == y)
  | lt => x < y
  | gt => x > y
  | le => x ≤ y
  | ge => x ≥ y

end FloatCompare

/-! ## Conversions -/

/-- The number of half the width nearest to the given one. What is not a number keeps its sign and
the high bits of its payload. -/
def demote (a : UInt64) : UInt32 :=
  if isNaN64 a then
    let sign := (a >>> 32 &&& 0x80000000).toUInt32
    let payload := (a >>> 29 &&& 0x3FFFFF).toUInt32
    quiet32 (sign ||| (0x7F800000 : UInt32) ||| payload)
  else (Float.ofBits a).toFloat32.toBits

/-- The same number at twice the width. -/
def promote (a : UInt32) : UInt64 :=
  if isNaN32 a then
    let sign := (a &&& sign32).toUInt64 <<< 32
    let payload := (a &&& 0x3FFFFF).toUInt64 <<< 29
    quiet64 (sign ||| (0x7FF0000000000000 : UInt64) ||| payload)
  else (Float32.ofBits a).toFloat.toBits

/-- The integer of 32 bits that a number has before its point. Out of range it traps, or, if
`saturating`, it is the nearest integer of the range, zero for what is not a number. -/
def truncate32 (signed saturating : Bool) (a : UInt64) : Except Trap UInt32 :=
  let x := Float.ofBits a
  let saturated := if signed then x.toInt32.toUInt32 else x.toUInt32
  let inRange := if signed then -2147483649 < x ∧ x < 2147483648 else -1 < x ∧ x < 4294967296
  if isNaN64 a then if saturating then .ok 0 else .error .notANumber
  else if saturating ∨ inRange then .ok saturated
  else .error .integerOverflow

/-- The integer of 64 bits that a number has before its point, likewise. -/
def truncate64 (signed saturating : Bool) (a : UInt64) : Except Trap UInt64 :=
  let x := Float.ofBits a
  let saturated := if signed then x.toInt64.toUInt64 else x.toUInt64
  let inRange :=
    if signed then -9223372036854775808 ≤ x ∧ x < 9223372036854775808
    else -1 < x ∧ x < 18446744073709551616
  if isNaN64 a then if saturating then .ok 0 else .error .notANumber
  else if saturating ∨ inRange then .ok saturated
  else .error .integerOverflow

end Playground.Wasm
