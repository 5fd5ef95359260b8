import Playground.Limits
import Playground.Wasm.Types

/-!
# Linear memory

Bytes that are zero until they are written, in a size that only grows. Only the pages up to the
highest one written are held.

* `Memory.byte` — the byte at an address: the view that reading and writing are told by.
* `Memory.read?` — the number at an address inside the memory.
* `Memory.range?` — the bytes of a range, if all of it lies inside.
* `Memory.grow?` — more pages, unless that is above one of the memory's two bounds.
-/

set_option autoImplicit false

namespace Playground.Wasm

/-- A linear memory. -/
structure Memory where
  /-- The pages held, each empty while all of it is zero. -/
  held : Array ByteArray
  /-- The size in bytes. -/
  size : Nat
  /-- The greatest number of pages it may have by its type. -/
  maxPages : Nat
  /-- The greatest number of pages that the sandbox grants, if it sets one. -/
  cap : Option Nat

namespace Memory

/-- The number of pages. -/
def pages (m : Memory) : Nat := m.size / pageSize

/-- The byte at an address. -/
def byte (m : Memory) (address : Nat) : UInt8 :=
  match m.held[address / pageSize]? with
  | none => 0
  | some page => if h : address % pageSize < page.size then page[address % pageSize] else 0

/-- A page with its first bytes given and zeros behind. -/
def pageOf (bytes : ByteArray) : ByteArray :=
  (Nat.repeat (·.push 0) (pageSize - bytes.size) bytes)

/-- The page with one byte replaced. A page that holds nothing is filled with zeros first. -/
def setInPage (page : ByteArray) (i : Nat) (b : UInt8) : ByteArray :=
  let page := if page.isEmpty then pageOf page else page
  if h : i < page.size then page.set i b h else page

/-- The memory with one byte replaced. -/
def setByte (m : Memory) (address : Nat) (b : UInt8) : Memory :=
  match m with
  | ⟨held, size, maxPages, cap⟩ =>
    let i := address / pageSize
    let held :=
      if held.size ≤ i then held ++ Array.replicate (i + 1 - held.size) ByteArray.empty else held
    ⟨held.modify i (setInPage · (address % pageSize) b), size, maxPages, cap⟩

/-- The number in the `n` bytes from an address on, lowest first. -/
def number (m : Memory) (address : Nat) : Nat → UInt64
  | 0 => 0
  | n + 1 => (m.byte address).toUInt64 ||| m.number (address + 1) n <<< 8

/-- The memory with the low `n` bytes of a number put from an address on. -/
def putNumber (m : Memory) (address : Nat) (x : UInt64) : Nat → Memory
  | 0 => m
  | n + 1 => (m.setByte address x.toUInt8).putNumber (address + 1) (x >>> 8) n

/-- The number in `n` bytes, if they lie inside. -/
def read? (m : Memory) (address n : Nat) : Option UInt64 :=
  if address + n ≤ m.size then some (m.number address n) else none

/-- The bytes of a range. -/
def slice (m : Memory) (address length : Nat) : List UInt8 :=
  (List.range length).map fun i => m.byte (address + i)

/-- The bytes of a range, if all of it lies inside. -/
def range? (m : Memory) (address length : Nat) : Option (List UInt8) :=
  if address + length ≤ m.size then some (m.slice address length) else none

theorem length_slice (m : Memory) (address length : Nat) :
    (m.slice address length).length = length := by
  rw [slice, List.length_map, List.length_range]

theorem getElem?_slice (m : Memory) (address : Nat) {i length : Nat} (hi : i < length) :
    (m.slice address length)[i]? = some (m.byte (address + i)) := by
  rw [slice, List.getElem?_map, List.getElem?_range hi, Option.map_some]

/-- A range is one range after another. -/
theorem slice_add (m : Memory) (address first second : Nat) :
    m.slice address (first + second) =
      m.slice address first ++ m.slice (address + first) second := by
  simp only [slice, List.range_add, List.map_append, List.map_map, Function.comp_def, Nat.add_assoc]

/-- The memory with bytes put one after another from an address on. -/
def putBytes (m : Memory) (address : Nat) : List UInt8 → Memory
  | [] => m
  | b :: rest => (m.setByte address b).putBytes (address + 1) rest

/-- Puts bytes, if they fit inside. -/
def writeBytes? (m : Memory) (address : Nat) (bytes : List UInt8) : Option Memory :=
  if address + bytes.length ≤ m.size then some (m.putBytes address bytes) else none

/-- Why a memory does not get the size asked for. -/
inductive Refusal where
  /-- The size is above what its type admits. -/
  | bounds
  /-- The size is above what the sandbox grants. -/
  | cap
  deriving DecidableEq, Repr

/-- The refusal in words. -/
def Refusal.message : Refusal → String
  | bounds => "out of bounds memory growth"
  | cap => "a resource limiter denied to allocate or grow the linear memory"

/-- Whether the sandbox grants a number of pages. -/
def granted (cap : Option Nat) (pages : Nat) : Bool :=
  match cap with
  | none => true
  | some max => pages ≤ max

/-- The greatest number of pages that a memory type admits. -/
def typeBound (t : MemoryType) : Nat :=
  match t.size.max, t.address with
  | some max, _ => max
  | none, .w32 => Nat.pow 2 16
  | none, .w64 => Nat.pow 2 48

/-- A new memory of a type, in its least size. -/
def new? (t : MemoryType) (cap : Option Nat) : Except Refusal Memory :=
  if granted cap t.size.min then .ok ⟨#[], t.size.min * pageSize, typeBound t, cap⟩
  else .error .cap

/-- The memory with `delta` more pages. -/
def grow? (m : Memory) (delta : Nat) : Except Refusal Memory :=
  if delta = 0 then .ok m
  else if m.maxPages < m.pages + delta then .error .bounds
  else if granted m.cap (m.pages + delta) then
    .ok { m with size := (m.pages + delta) * pageSize }
  else .error .cap

/-- A memory that holds exactly the given bytes and cannot grow. -/
def ofBytes (bytes : List UInt8) : Memory :=
  putBytes ⟨#[], bytes.length, 0, none⟩ 0 bytes

end Memory

end Playground.Wasm
