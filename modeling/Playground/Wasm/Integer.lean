import Playground.Wasm.Types
import Playground.Wasm.Trap

/-!
# Integer operations

Arithmetic on 32-bit and 64-bit words. A word has no sign of its own: the operations that care come
in a signed and an unsigned form. Division alone can trap.

* `IntUnary`, `IntBinary`, `IntCompare` — the operations.
* `eval32`, `eval64` — what they compute.
-/

set_option autoImplicit false

namespace Playground.Wasm

/-- Operations on one integer. -/
inductive IntUnary where
  /-- Number of zero bits above the highest one. -/
  | clz
  /-- Number of zero bits below the lowest one. -/
  | ctz
  /-- Number of one bits. -/
  | popcnt
  /-- The low bits, taken as a signed number. -/
  | extend8
  | extend16
  | extend32
  deriving DecidableEq, Repr

/-- Operations on two integers. -/
inductive IntBinary where
  | add | sub | mul
  | divS | divU | remS | remU
  | and | or | xor
  | shl | shrS | shrU | rotl | rotr
  deriving DecidableEq, Repr

/-- Comparisons of two integers. -/
inductive IntCompare where
  | eq | ne
  | ltS | ltU | gtS | gtU | leS | leU | geS | geU
  deriving DecidableEq, Repr

/-- The number of one bits of `n` among its low `width` bits. -/
def countOnes (width n : Nat) : Nat := (List.range width).countP n.testBit

namespace IntUnary

def eval32 (op : IntUnary) (a : UInt32) : UInt32 :=
  match op with
  | clz => if a = 0 then 32 else 31 - a.log2
  | ctz => if a = 0 then 32 else (a &&& (0 - a)).log2
  | popcnt => (countOnes 32 a.toNat).toUInt32
  | extend8 => a.toUInt8.toInt8.toInt32.toUInt32
  | extend16 => a.toUInt16.toInt16.toInt32.toUInt32
  | extend32 => a

def eval64 (op : IntUnary) (a : UInt64) : UInt64 :=
  match op with
  | clz => if a = 0 then 64 else 63 - a.log2
  | ctz => if a = 0 then 64 else (a &&& (0 - a)).log2
  | popcnt => (countOnes 64 a.toNat).toUInt64
  | extend8 => a.toUInt8.toInt8.toInt64.toUInt64
  | extend16 => a.toUInt16.toInt16.toInt64.toUInt64
  | extend32 => a.toUInt32.toInt32.toInt64.toUInt64

end IntUnary

namespace IntBinary

def eval32 (op : IntBinary) (a b : UInt32) : Except Trap UInt32 :=
  match op with
  | add => .ok (a + b)
  | sub => .ok (a - b)
  | mul => .ok (a * b)
  | divS =>
    if b = 0 then .error .divisionByZero
    else if a = 0x80000000 ∧ b = 0xFFFFFFFF then .error .integerOverflow
    else .ok (a.toInt32 / b.toInt32).toUInt32
  | divU => if b = 0 then .error .divisionByZero else .ok (a / b)
  | remS =>
    if b = 0 then .error .divisionByZero
    else if b = 0xFFFFFFFF then .ok 0
    else .ok (a.toInt32 % b.toInt32).toUInt32
  | remU => if b = 0 then .error .divisionByZero else .ok (a % b)
  | and => .ok (a &&& b)
  | or => .ok (a ||| b)
  | xor => .ok (a ^^^ b)
  | shl => .ok (a <<< b)
  | shrS => .ok (a.toInt32 >>> (b % 32).toInt32).toUInt32
  | shrU => .ok (a >>> b)
  | rotl => .ok (a <<< b ||| a >>> (32 - b % 32))
  | rotr => .ok (a >>> b ||| a <<< (32 - b % 32))

def eval64 (op : IntBinary) (a b : UInt64) : Except Trap UInt64 :=
  match op with
  | add => .ok (a + b)
  | sub => .ok (a - b)
  | mul => .ok (a * b)
  | divS =>
    if b = 0 then .error .divisionByZero
    else if a = 0x8000000000000000 ∧ b = 0xFFFFFFFFFFFFFFFF then .error .integerOverflow
    else .ok (a.toInt64 / b.toInt64).toUInt64
  | divU => if b = 0 then .error .divisionByZero else .ok (a / b)
  | remS =>
    if b = 0 then .error .divisionByZero
    else if b = 0xFFFFFFFFFFFFFFFF then .ok 0
    else .ok (a.toInt64 % b.toInt64).toUInt64
  | remU => if b = 0 then .error .divisionByZero else .ok (a % b)
  | and => .ok (a &&& b)
  | or => .ok (a ||| b)
  | xor => .ok (a ^^^ b)
  | shl => .ok (a <<< b)
  | shrS => .ok (a.toInt64 >>> (b % 64).toInt64).toUInt64
  | shrU => .ok (a >>> b)
  | rotl => .ok (a <<< b ||| a >>> (64 - b % 64))
  | rotr => .ok (a >>> b ||| a <<< (64 - b % 64))

end IntBinary

namespace IntCompare

def eval32 (op : IntCompare) (a b : UInt32) : Bool :=
  match op with
  | eq => a == b
  | ne => a != b
  | ltS => a.toInt32 < b.toInt32
  | ltU => a < b
  | gtS => b.toInt32 < a.toInt32
  | gtU => b < a
  | leS => a.toInt32 ≤ b.toInt32
  | leU => a ≤ b
  | geS => b.toInt32 ≤ a.toInt32
  | geU => b ≤ a

def eval64 (op : IntCompare) (a b : UInt64) : Bool :=
  match op with
  | eq => a == b
  | ne => a != b
  | ltS => a.toInt64 < b.toInt64
  | ltU => a < b
  | gtS => b.toInt64 < a.toInt64
  | gtU => b < a
  | leS => a.toInt64 ≤ b.toInt64
  | leU => a ≤ b
  | geS => b.toInt64 ≤ a.toInt64
  | geU => b ≤ a

end IntCompare

end Playground.Wasm
