import Playground.Wasm.Instr

/-!
# Modules

A module as its binary form spells it out: types, imports, definitions, segments and code, each in
the order of declaration.
-/

set_option autoImplicit false

namespace Playground.Wasm

/-- What an import asks for. -/
inductive ImportType where
  /-- A function, by the index of its type. -/
  | function (type : Nat)
  | table (type : TableType)
  | memory (type : MemoryType)
  | global (type : GlobalType)
  deriving DecidableEq, Repr

/-- An import: two names and what is wanted. -/
structure Import where
  space : String
  name : String
  type : ImportType
  deriving DecidableEq, Repr

/-- What an export offers, by its index. -/
inductive ExportTarget where
  | function (index : Nat)
  | table (index : Nat)
  | memory (index : Nat)
  | global (index : Nat)
  deriving DecidableEq, Repr

structure Export where
  name : String
  target : ExportTarget
  deriving DecidableEq, Repr

/-- A global variable with the expression of its first value. -/
structure Global where
  type : GlobalType
  value : Array Instr

/-- What becomes of a segment when the module is instantiated. -/
inductive SegmentMode where
  /-- It waits to be copied by an instruction. -/
  | passive
  /-- It is copied to a table or memory, at the offset an expression gives. -/
  | active (index : Nat) (offset : Array Instr)
  /-- It only announces functions that code may refer to. -/
  | declared

/-- References for a table, each by an expression. -/
structure ElementSegment where
  type : ValueType
  items : List (Array Instr)
  mode : SegmentMode

/-- Bytes for a memory. -/
structure DataSegment where
  bytes : List UInt8
  mode : SegmentMode

/-- The code of a function: groups of locals and instructions. -/
structure Body where
  locals : List (Nat × ValueType)
  code : Array Instr

/-- A decoded module. -/
structure Module where
  types : Array FuncType
  imports : Array Import
  /-- Type indices of the functions that the module defines. -/
  functions : Array Nat
  tables : Array TableType
  memories : Array MemoryType
  globals : Array Global
  exports : Array Export
  start : Option Nat
  elements : Array ElementSegment
  /-- The number of data segments as announced in front of the code. -/
  dataCount : Option Nat
  bodies : Array Body
  data : Array DataSegment

namespace Module

def empty : Module where
  types := #[]
  imports := #[]
  functions := #[]
  tables := #[]
  memories := #[]
  globals := #[]
  exports := #[]
  start := none
  elements := #[]
  dataCount := none
  bodies := #[]
  data := #[]

/-- Type indices of the imported functions. -/
def importedFunctions (m : Module) : Array Nat :=
  m.imports.filterMap fun i => match i.type with
    | .function t => some t
    | _ => none

def importedTables (m : Module) : Array TableType :=
  m.imports.filterMap fun i => match i.type with
    | .table t => some t
    | _ => none

def importedMemories (m : Module) : Array MemoryType :=
  m.imports.filterMap fun i => match i.type with
    | .memory t => some t
    | _ => none

def importedGlobals (m : Module) : Array GlobalType :=
  m.imports.filterMap fun i => match i.type with
    | .global t => some t
    | _ => none

end Module

end Playground.Wasm
