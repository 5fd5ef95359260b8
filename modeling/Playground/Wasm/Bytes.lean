import Playground.Text.Utf8

/-!
# Reading bytes

The parts that the binary format is made of: single bytes, numbers of seven bits a byte, names and
counted sequences. A reader takes what it needs from the front of the bytes.

* `unsigned`, `signed` — numbers in as many bytes as their width allows, not in more.
* `counted` — a count and as many items.
* `within` — a part whose length is given, which must be used up.
-/

set_option autoImplicit false

namespace Playground.Wasm

/-- What can be wrong with a module. -/
inductive Defect where
  /-- The bytes end inside an item. -/
  | truncated
  /-- A number has too many bits for its width. -/
  | overlong
  /-- Bytes that are no item of the format. -/
  | malformed
  /-- Bytes are left over behind an item of a given length. -/
  | trailing
  /-- An item that is not provided for. -/
  | unsupported
  /-- A section stands out of order or twice. -/
  | misplaced
  /-- A count or size is above what is admitted. -/
  | tooLarge
  /-- An index that names nothing. -/
  | unknownIndex
  /-- An operand has another type than is wanted. -/
  | typeMismatch
  /-- The brackets of code do not match. -/
  | unbalanced
  /-- An expression that is not constant. -/
  | notConstant
  /-- A global is assigned that may not be. -/
  | immutable
  /-- Two exports of one name. -/
  | duplicateExport
  /-- Parts of the module that disagree in number. -/
  | inconsistent
  deriving DecidableEq, Repr

/-- A reader of a value from the front of bytes. -/
abbrev Reader := StateT (List UInt8) (Except Defect)

namespace Reader

def fail {α : Type} (d : Defect) : Reader α := throw d

/-- The next byte. -/
def byte : Reader UInt8 := fun
  | [] => .error .truncated
  | b :: rest => .ok (b, rest)

/-- The next byte, left in place; `none` at the end. -/
def peek : Reader (Option UInt8) := fun bytes => .ok (bytes.head?, bytes)

/-- Whether the bytes are used up. -/
def atEnd : Reader Bool := fun bytes => .ok (bytes.isEmpty, bytes)

/-- The next `n` bytes. -/
def take (n : Nat) : Reader (List UInt8) := fun bytes =>
  if bytes.length < n then .error .truncated else .ok (bytes.splitAt n)

/-- Passes over all bytes that are left. -/
def skip : Reader Unit := fun _ => .ok ((), [])

/-- Requires `condition`. -/
def require (condition : Bool) (d : Defect) : Reader Unit :=
  if condition then pure () else fail d

/-- The groups of seven bits of a number, lowest first: at most `groups` of them. The last one comes
with the number of bits in front of it. -/
def digits (done shift : Nat) : Nat → Reader (Nat × Nat × UInt8)
  | 0 => fail .overlong
  | groups + 1 => do
    let b ← byte
    if b < 0x80 then return (done, shift, b)
    else digits (done + (b.toNat - 0x80) <<< shift) (shift + 7) groups

/-- A number of `bits` bits without sign. -/
def unsigned (bits : Nat) : Reader Nat := do
  let (low, shift, last) ← digits 0 0 ((bits + 6) / 7)
  require (shift + 7 ≤ bits || last.toNat < Nat.pow 2 (bits - shift)) .overlong
  return low + last.toNat <<< shift

/-- A number of `bits` bits whose highest bit is a sign. -/
def signed (bits : Nat) : Reader Int := do
  let (low, shift, last) ← digits 0 0 ((bits + 6) / 7)
  let high : Int := if last < 0x40 then last.toNat else last.toNat - 0x80
  let bound : Int := Int.pow 2 (bits - shift - 1)
  require (shift + 7 ≤ bits || (-bound ≤ high && high < bound)) .overlong
  return low + high * Int.pow 2 shift

/-- An index or count. -/
def u32 : Reader Nat := unsigned 32

/-- A number of `n` bytes, lowest first. -/
def littleEndian (n : Nat) : Reader Nat := do
  return (← take n).foldr (fun b acc => b.toNat + acc * 256) 0

/-- Longest name, in bytes. -/
def maxNameBytes : Nat := 100000

/-- A name: a length and that many bytes of text. -/
def name : Reader String := do
  let n ← u32
  require (n ≤ maxNameBytes) .tooLarge
  match Text.Utf8.decode? (← take n) with
  | some s => return s
  | none => fail .malformed

/-- `n` items behind those already read. -/
def repeated {α : Type} (item : Reader α) (done : Array α) : Nat → Reader (Array α)
  | 0 => pure done
  | n + 1 => do repeated item (done.push (← item)) n

/-- A count, at most `max`, and as many items. -/
def counted {α : Type} (max : Nat) (item : Reader α) : Reader (Array α) := do
  let n ← u32
  require (n ≤ max) .tooLarge
  repeated item #[] n

/-- Reads all of `bytes`. -/
def whole {α : Type} (item : Reader α) (bytes : List UInt8) : Except Defect α := do
  let (a, rest) ← item bytes
  if rest.isEmpty then return a else throw .trailing

/-- An item that fills the next `n` bytes. -/
def within {α : Type} (n : Nat) (item : Reader α) : Reader α := do
  match whole item (← take n) with
  | .ok a => return a
  | .error d => fail d

end Reader

end Playground.Wasm
