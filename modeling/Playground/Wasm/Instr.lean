import Playground.Wasm.Integer
import Playground.Wasm.Floating

/-!
# Instructions

The instructions of function bodies and constant expressions. A body is a flat list in which
`block`, `loop`, `ifThen`, `elseMark` and `endMark` are the brackets.

* `Cell` — one value on the operand stack: 64 bits whose type validation has fixed.
* `UnaryOp`, `BinaryOp` — the operations that only compute, with their types and results.
* `Instr` — everything else.
-/

set_option autoImplicit false

namespace Playground.Wasm

/-- A value on the operand stack, in a local or in a global. Values of 32 bits fill the low half and
leave the other zero; a reference is zero for null and otherwise one more than a function index. -/
abbrev Cell := UInt64

/-- Conversions between number types. -/
inductive Conversion where
  | wrap
  | extend (signed : Bool)
  | truncate (source target : Width) (signed saturating : Bool)
  | toFloat (source target : Width) (signed : Bool)
  | demote
  | promote
  /-- The bits of a float as an integer of its width. -/
  | bitsOf (w : Width)
  /-- The float that has the bits of an integer. -/
  | ofBits (w : Width)
  deriving DecidableEq, Repr

/-- Operations that turn one value into another. -/
inductive UnaryOp where
  | int (w : Width) (op : IntUnary)
  | isZero (w : Width)
  | float (w : Width) (op : FloatUnary)
  | convert (c : Conversion)
  deriving DecidableEq, Repr

/-- Operations that turn two values into one. -/
inductive BinaryOp where
  | int (w : Width) (op : IntBinary)
  | intCompare (w : Width) (op : IntCompare)
  | float (w : Width) (op : FloatBinary)
  | floatCompare (w : Width) (op : FloatCompare)
  deriving DecidableEq, Repr

namespace Conversion

/-- What the conversion takes and gives. -/
def signature : Conversion → ValueType × ValueType
  | wrap => (.i64, .i32)
  | extend _ => (.i32, .i64)
  | truncate source target _ _ => (.float source, .int target)
  | toFloat source target _ => (.int source, .float target)
  | demote => (.f64, .f32)
  | promote => (.f32, .f64)
  | bitsOf w => (.float w, .int w)
  | ofBits w => (.int w, .float w)

def eval (c : Conversion) (a : Cell) : Except Trap Cell :=
  match c with
  | wrap => .ok a.toUInt32.toUInt64
  | extend true => .ok a.toUInt32.toInt32.toInt64.toUInt64
  | extend false => .ok a
  | truncate source target signed saturating =>
    let wide := match source with
      | .w32 => Wasm.promote a.toUInt32
      | .w64 => a
    match target with
    | .w32 => (truncate32 signed saturating wide).map UInt32.toUInt64
    | .w64 => truncate64 signed saturating wide
  | toFloat .w32 .w32 true => .ok a.toUInt32.toInt32.toFloat32.toBits.toUInt64
  | toFloat .w32 .w32 false => .ok a.toUInt32.toFloat32.toBits.toUInt64
  | toFloat .w64 .w32 true => .ok a.toInt64.toFloat32.toBits.toUInt64
  | toFloat .w64 .w32 false => .ok a.toFloat32.toBits.toUInt64
  | toFloat .w32 .w64 true => .ok a.toUInt32.toInt32.toFloat.toBits
  | toFloat .w32 .w64 false => .ok a.toUInt32.toFloat.toBits
  | toFloat .w64 .w64 true => .ok a.toInt64.toFloat.toBits
  | toFloat .w64 .w64 false => .ok a.toFloat.toBits
  | demote => .ok (Wasm.demote a).toUInt64
  | promote => .ok (Wasm.promote a.toUInt32)
  | bitsOf _ => .ok a
  | ofBits _ => .ok a

end Conversion

namespace UnaryOp

/-- What the operation takes and gives. -/
def signature : UnaryOp → ValueType × ValueType
  | int w _ => (.int w, .int w)
  | isZero w => (.int w, .i32)
  | float w _ => (.float w, .float w)
  | convert c => c.signature

def eval (op : UnaryOp) (a : Cell) : Except Trap Cell :=
  match op with
  | int .w32 op => .ok (op.eval32 a.toUInt32).toUInt64
  | int .w64 op => .ok (op.eval64 a)
  | isZero _ => .ok (if a = 0 then 1 else 0)
  | float .w32 op => .ok (op.eval32 a.toUInt32).toUInt64
  | float .w64 op => .ok (op.eval64 a)
  | convert c => c.eval a

end UnaryOp

namespace BinaryOp

/-- What the operation takes twice and what it gives. -/
def signature : BinaryOp → ValueType × ValueType
  | int w _ => (.int w, .int w)
  | intCompare w _ => (.int w, .i32)
  | float w _ => (.float w, .float w)
  | floatCompare w _ => (.float w, .i32)

def eval (op : BinaryOp) (a b : Cell) : Except Trap Cell :=
  match op with
  | int .w32 op => (op.eval32 a.toUInt32 b.toUInt32).map UInt32.toUInt64
  | int .w64 op => op.eval64 a b
  | intCompare .w32 op => .ok (op.eval32 a.toUInt32 b.toUInt32).toUInt64
  | intCompare .w64 op => .ok (op.eval64 a b).toUInt64
  | float .w32 op => .ok (op.eval32 a.toUInt32 b.toUInt32).toUInt64
  | float .w64 op => .ok (op.eval64 a b)
  | floatCompare .w32 op => .ok (op.eval32 a.toUInt32 b.toUInt32).toUInt64
  | floatCompare .w64 op => .ok (op.eval64 a b).toUInt64

end BinaryOp

/-- How a value lies in memory: its type and how many of its bytes are kept. A kept part is read
back with the sign of its highest bit or with zeros in front. -/
structure Access where
  type : ValueType
  bytes : Nat
  signed : Bool
  deriving DecidableEq, Repr

/-- Where a value lies: the memory, the distance from the address on the stack, and the promised
alignment as a power of two. -/
structure Place where
  align : Nat
  memory : Nat
  offset : Nat
  deriving DecidableEq, Repr

/-- Instructions. -/
inductive Instr where
  | unreachable
  | nop
  | block (type : BlockType)
  | loop (type : BlockType)
  | ifThen (type : BlockType)
  | elseMark
  | endMark
  | br (label : Nat)
  | brIf (label : Nat)
  | brTable (labels : Array Nat) (default : Nat)
  | ret
  | call (function : Nat)
  | callIndirect (type table : Nat)
  | tailCall (function : Nat)
  | tailCallIndirect (type table : Nat)
  | drop
  | select
  | selectTyped (type : ValueType)
  | localGet (index : Nat)
  | localSet (index : Nat)
  | localTee (index : Nat)
  | globalGet (index : Nat)
  | globalSet (index : Nat)
  | tableGet (table : Nat)
  | tableSet (table : Nat)
  | load (access : Access) (place : Place)
  | store (access : Access) (place : Place)
  | memorySize (memory : Nat)
  | memoryGrow (memory : Nat)
  | const (type : ValueType) (value : Cell)
  | unary (op : UnaryOp)
  | binary (op : BinaryOp)
  | refNull (type : ValueType)
  | refIsNull
  | refFunc (function : Nat)
  | memoryInit (segment memory : Nat)
  | dataDrop (segment : Nat)
  | memoryCopy (target source : Nat)
  | memoryFill (memory : Nat)
  | tableInit (segment table : Nat)
  | elemDrop (segment : Nat)
  | tableCopy (target source : Nat)
  | tableGrow (table : Nat)
  | tableSize (table : Nat)
  | tableFill (table : Nat)

end Playground.Wasm
