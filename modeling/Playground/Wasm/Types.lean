/-!
# Types of a module

The types that values, functions, memories, tables and globals of a WebAssembly module have.
-/

set_option autoImplicit false

namespace Playground.Wasm

/-- The two widths of numbers. -/
inductive Width where
  | w32
  | w64
  deriving DecidableEq, Repr

/-- The number of bits. -/
def Width.bits : Width → Nat
  | .w32 => 32
  | .w64 => 64

/-- Types of values. -/
inductive ValueType where
  | int (w : Width)
  | float (w : Width)
  /-- A function, or null. -/
  | function
  /-- A value of the host, or null. -/
  | foreign
  deriving DecidableEq, Repr

namespace ValueType

abbrev i32 : ValueType := .int .w32
abbrev i64 : ValueType := .int .w64
abbrev f32 : ValueType := .float .w32
abbrev f64 : ValueType := .float .w64

/-- Whether values of the type are references. -/
def isReference : ValueType → Bool
  | .function | .foreign => true
  | _ => false

end ValueType

/-- The type of a function: what it takes and what it leaves. -/
structure FuncType where
  params : List ValueType
  results : List ValueType
  deriving DecidableEq, Repr

/-- The size a memory or table begins with and the size it may grow to. -/
structure SizeRange where
  min : Nat
  max : Option Nat
  deriving DecidableEq, Repr

/-- The type of a linear memory. Sizes are in pages. -/
structure MemoryType where
  /-- The width of its addresses. -/
  address : Width
  size : SizeRange
  deriving DecidableEq, Repr

/-- The type of a table. Sizes are in elements. -/
structure TableType where
  /-- The width of its indices. -/
  address : Width
  element : ValueType
  size : SizeRange
  deriving DecidableEq, Repr

/-- The type of a global variable. -/
structure GlobalType where
  value : ValueType
  mutable : Bool
  deriving DecidableEq, Repr

/-- The type of a block: what it takes from the stack and what it leaves there. -/
inductive BlockType where
  | empty
  | value (type : ValueType)
  /-- A function type of the module, by its index. -/
  | function (index : Nat)
  deriving DecidableEq, Repr

/-- The function type that a block type stands for, if the module has it. -/
def BlockType.resolve? (types : Array FuncType) : BlockType → Option FuncType
  | .empty => some ⟨[], []⟩
  | .value t => some ⟨[], [t]⟩
  | .function i => types[i]?

end Playground.Wasm
