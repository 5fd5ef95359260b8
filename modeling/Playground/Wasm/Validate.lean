import Playground.Wasm.Module
import Playground.Wasm.Bytes

/-!
# Validation

Checks that a module makes sense: indices name something, every instruction finds operands of the
types it wants, segments fit their tables and memories in type, and exports have names of their own.
Valid code cannot go wrong in ways that a `Trap` does not cover.

Code is checked by running it on types. Behind an instruction that never continues, operands of any
type may be taken from an empty stack.

* `Context` — what indices stand for.
* `Context.checkInstr` — one instruction on the stack of types.
* `Module.validate` — a whole module.
-/

set_option autoImplicit false

namespace Playground.Wasm

/-- What the indices of a module stand for. -/
structure Context where
  types : Array FuncType
  /-- The types of all functions, imported ones first. -/
  functions : Array FuncType
  tables : Array TableType
  memories : Array MemoryType
  globals : Array GlobalType
  /-- How many of the globals are imported. -/
  importedGlobals : Nat
  /-- The reference types of the element segments. -/
  elements : Array ValueType
  dataCount : Option Nat
  /-- For each function, whether code may take a reference to it. -/
  referable : Array Bool
  locals : Array ValueType
  results : List ValueType

/-- The kinds of brackets around code. -/
inductive Bracket where
  | block | loop | ifThen | elseMark
  deriving DecidableEq, Repr

/-- A bracket that is open, with the operands above it; `none` is an operand of any type. -/
structure Level where
  bracket : Bracket
  type : FuncType
  operands : List (Option ValueType)
  /-- Whether the rest of the bracket is never reached. -/
  unreachable : Bool

/-- The types a branch to the bracket hands over. -/
def Level.branchTypes (l : Level) : List ValueType :=
  match l.bracket with
  | .loop => l.type.params
  | _ => l.type.results

/-- The open brackets, innermost first. None are open behind the end of a body. -/
abbrev Levels := List Level

/-- Checking of code. -/
abbrev Check := StateT Levels (Except Defect)

namespace Check

def fail {α : Type} (d : Defect) : Check α := throw d

def require (condition : Bool) (d : Defect) : Check Unit :=
  if condition then pure () else fail d

/-- The value found, which must exist. -/
def found {α : Type} (a : Option α) : Check α :=
  match a with
  | some a => pure a
  | none => fail .unknownIndex

/-- The innermost bracket. -/
def top : Check Level := do
  match ← get with
  | l :: _ => return l
  | [] => fail .unbalanced

def setTop (l : Level) : Check Unit := modify fun
  | _ :: rest => l :: rest
  | [] => []

def pushAny (t : Option ValueType) : Check Unit := do
  let l ← top
  setTop { l with operands := t :: l.operands }

def push (t : ValueType) : Check Unit := pushAny (some t)

/-- Takes an operand of any type. -/
def popAny : Check (Option ValueType) := do
  let l ← top
  match l.operands with
  | t :: rest =>
    setTop { l with operands := rest }
    return t
  | [] =>
    require l.unreachable .typeMismatch
    return none

/-- Takes an operand that can be of type `t`; the result tells what it was. -/
def popAs (t : ValueType) : Check (Option ValueType) := do
  let actual ← popAny
  require (actual == none || actual == some t) .typeMismatch
  return actual

def pop (t : ValueType) : Check Unit := do
  let _ ← popAs t

/-- Takes operands of the given types, the last one first. -/
def popAll (ts : List ValueType) : Check Unit := ts.reverse.forM pop

def pushAll (ts : List ValueType) : Check Unit := ts.forM push

/-- Requires operands of the given types and leaves them. -/
def keepAll (ts : List ValueType) : Check Unit := do
  let actual ← ts.reverse.mapM popAs
  actual.reverse.forM pushAny

/-- The rest of the innermost bracket is never reached. -/
def cutOff : Check Unit := do
  let l ← top
  setTop { l with operands := [], unreachable := true }

/-- Opens a bracket; its parameters are taken and stand above it. -/
def enter (bracket : Bracket) (type : FuncType) : Check Unit := do
  popAll type.params
  modify (⟨bracket, type, [], false⟩ :: ·)
  pushAll type.params

/-- Closes the innermost bracket, above which exactly its results must stand. -/
def leave : Check Level := do
  let l ← top
  popAll l.type.results
  require ((← top).operands == []) .typeMismatch
  modify List.tail
  return l

/-- The types that a branch to a label hands over. -/
def branchTypes (label : Nat) : Check (List ValueType) := do
  return (← found (← get)[label]?).branchTypes

end Check

namespace Context

open Check

def blockType (c : Context) (t : BlockType) : Check FuncType := found (t.resolve? c.types)

/-- The type of addresses of a memory. -/
def memoryAddress (c : Context) (i : Nat) : Check ValueType := do
  return .int (← found c.memories[i]?).address

/-- The type of indices of a table. -/
def tableAddress (c : Context) (i : Nat) : Check ValueType := do
  return .int (← found c.tables[i]?).address

/-- The type of an amount that must suit two kinds of address. -/
def common (a b : ValueType) : ValueType := if a == .i64 && b == .i64 then .i64 else .i32

/-- A place is aligned at most to the size of the access, and its offset is an address. -/
def checkPlace (c : Context) (access : Access) (place : Place) : Check ValueType := do
  let address ← c.memoryAddress place.memory
  require (place.align < 32 && Nat.pow 2 place.align ≤ access.bytes) .tooLarge
  require (address == .i64 || place.offset < Nat.pow 2 32) .tooLarge
  return address

/-- Takes the operands of a call and pushes its results. -/
def checkCall (type : FuncType) : Check Unit := do
  popAll type.params
  pushAll type.results

/-- A call that ends the function must leave the function's own results. -/
def checkTailCall (c : Context) (type : FuncType) : Check Unit := do
  require (type.results == c.results) .typeMismatch
  popAll type.params
  cutOff

/-- The type of an indirect call; the index of the function is taken from the stack. -/
def checkIndirect (c : Context) (type table : Nat) : Check FuncType := do
  let t ← found c.tables[table]?
  require (t.element == .function) .typeMismatch
  let type ← found c.types[type]?
  pop (.int t.address)
  return type

/-- Checks one instruction. None may follow the end of the body. -/
def checkInstr (c : Context) (i : Instr) : Check Unit := do
  let _ ← top
  match i with
  | .unreachable => cutOff
  | .nop => pure ()
  | .block t => enter .block (← c.blockType t)
  | .loop t => enter .loop (← c.blockType t)
  | .ifThen t =>
    let t ← c.blockType t
    pop .i32
    enter .ifThen t
  | .elseMark =>
    let l ← leave
    require (l.bracket == .ifThen) .unbalanced
    modify (⟨.elseMark, l.type, [], false⟩ :: ·)
    pushAll l.type.params
  | .endMark =>
    let l ← leave
    -- an `if` without an `else` passes its parameters on
    require (l.bracket != .ifThen || l.type.params == l.type.results) .typeMismatch
    if !(← get).isEmpty then pushAll l.type.results
  | .br label =>
    popAll (← branchTypes label)
    cutOff
  | .brIf label =>
    pop .i32
    let ts ← branchTypes label
    popAll ts
    pushAll ts
  | .brTable labels default =>
    pop .i32
    let last ← branchTypes default
    labels.forM fun label => do
      let ts ← branchTypes label
      require (ts.length == last.length) .typeMismatch
      keepAll ts
    popAll last
    cutOff
  | .ret =>
    popAll c.results
    cutOff
  | .call f => checkCall (← found c.functions[f]?)
  | .callIndirect type table => checkCall (← c.checkIndirect type table)
  | .tailCall f => c.checkTailCall (← found c.functions[f]?)
  | .tailCallIndirect type table => c.checkTailCall (← c.checkIndirect type table)
  | .drop =>
    let _ ← popAny
  | .select =>
    pop .i32
    let a ← popAny
    let b ← popAny
    let numeric : Option ValueType → Bool := fun t => (t.map (!·.isReference)).getD true
    require (numeric a && numeric b) .typeMismatch
    require (a == b || a == none || b == none) .typeMismatch
    pushAny (a.or b)
  | .selectTyped t =>
    pop .i32
    pop t
    pop t
    push t
  | .localGet x => push (← found c.locals[x]?)
  | .localSet x => pop (← found c.locals[x]?)
  | .localTee x =>
    let t ← found c.locals[x]?
    pop t
    push t
  | .globalGet x => push (← found c.globals[x]?).value
  | .globalSet x =>
    let g ← found c.globals[x]?
    require g.mutable .immutable
    pop g.value
  | .tableGet x =>
    let t ← found c.tables[x]?
    pop (.int t.address)
    push t.element
  | .tableSet x =>
    let t ← found c.tables[x]?
    pop t.element
    pop (.int t.address)
  | .load access place =>
    pop (← c.checkPlace access place)
    push access.type
  | .store access place =>
    let address ← c.checkPlace access place
    pop access.type
    pop address
  | .memorySize x => push (← c.memoryAddress x)
  | .memoryGrow x =>
    let address ← c.memoryAddress x
    pop address
    push address
  | .const t _ => push t
  | .unary op =>
    pop op.signature.1
    push op.signature.2
  | .binary op =>
    pop op.signature.1
    pop op.signature.1
    push op.signature.2
  | .refNull t => push t
  | .refIsNull =>
    let t ← popAny
    require ((t.map (·.isReference)).getD true) .typeMismatch
    push .i32
  | .refFunc f =>
    let _ ← found c.functions[f]?
    require (c.referable[f]?.getD false) .unknownIndex
    push .function
  | .memoryInit segment x =>
    let address ← c.memoryAddress x
    let count ← found c.dataCount
    require (segment < count) .unknownIndex
    pop .i32
    pop .i32
    pop address
  | .dataDrop segment =>
    let count ← found c.dataCount
    require (segment < count) .unknownIndex
  | .memoryCopy target source =>
    let target ← c.memoryAddress target
    let source ← c.memoryAddress source
    pop (common target source)
    pop source
    pop target
  | .memoryFill x =>
    let address ← c.memoryAddress x
    pop address
    pop .i32
    pop address
  | .tableInit segment x =>
    let t ← found c.tables[x]?
    let element ← found c.elements[segment]?
    require (element == t.element) .typeMismatch
    pop .i32
    pop .i32
    pop (.int t.address)
  | .elemDrop segment =>
    let _ ← found c.elements[segment]?
  | .tableCopy target source =>
    let a ← found c.tables[target]?
    let b ← found c.tables[source]?
    require (a.element == b.element) .typeMismatch
    pop (common (.int a.address) (.int b.address))
    pop (.int b.address)
    pop (.int a.address)
  | .tableGrow x =>
    let t ← found c.tables[x]?
    pop (.int t.address)
    pop t.element
    push (.int t.address)
  | .tableSize x => push (← c.tableAddress x)
  | .tableFill x =>
    let t ← found c.tables[x]?
    pop (.int t.address)
    pop t.element
    pop (.int t.address)

/-- Checks a function body, whose last instruction must be the end mark that closes it. -/
def checkCode (c : Context) (code : Array Instr) : Except Defect Unit := do
  let start : Levels := [⟨.block, ⟨[], c.results⟩, [], false⟩]
  let ((), levels) ← (code.forM c.checkInstr).run start
  if levels.isEmpty then pure () else throw .unbalanced

/-- Whether an instruction may stand in a constant expression. -/
def isConstant (c : Context) : Instr → Bool
  | .const _ _ | .refNull _ | .refFunc _ => true
  | .binary (.int _ op) => op == .add || op == .sub || op == .mul
  | .globalGet x => x < c.importedGlobals && (c.globals[x]?.map (!·.mutable)).getD false
  | _ => false

/-- Checks a constant expression of type `t`. -/
def checkConstant (c : Context) (t : ValueType) (code : Array Instr) : Except Defect Unit := do
  if !code.all c.isConstant then throw .notConstant
  { c with results := [t] }.checkCode (code.push .endMark)

end Context

namespace Module

/-- The functions that the module mentions outside of code: code may refer to these. -/
def mentioned (m : Module) : List Nat :=
  let inCode (code : Array Instr) : List Nat := code.toList.filterMap fun
    | .refFunc f => some f
    | _ => none
  m.globals.toList.flatMap (fun g => inCode g.value)
    ++ m.elements.toList.flatMap (fun e => e.items.flatMap inCode)
    ++ m.exports.toList.filterMap fun e => match e.target with
      | .function f => some f
      | _ => none

/-- Requires `condition`. -/
def require (condition : Bool) (d : Defect) : Except Defect Unit :=
  if condition then pure () else throw d

/-- The types at the given indices. -/
def resolveTypes (types : Array FuncType) (indices : Array Nat) : Except Defect (Array FuncType) :=
  indices.mapM fun i => match types[i]? with
    | some t => pure t
    | none => throw .unknownIndex

/-- The least size is at most the greatest, and both are at most `bound`. -/
def checkSize (size : SizeRange) (bound : Nat) : Except Defect Unit := do
  require (size.min ≤ bound) .tooLarge
  match size.max with
  | none => pure ()
  | some max => require (size.min ≤ max && max ≤ bound) .tooLarge

def maxTableElements : Nat := 10000000

/-- The greatest number of pages that addresses of a width can reach. -/
def maxPages : Width → Nat
  | .w32 => Nat.pow 2 16
  | .w64 => Nat.pow 2 48

def checkTable (t : TableType) : Except Defect Unit := do
  require (t.size.min ≤ maxTableElements) .tooLarge
  checkSize t.size (Nat.pow 2 64)

def checkMemory (t : MemoryType) : Except Defect Unit := checkSize t.size (maxPages t.address)

def maxLocals : Nat := 50000

/-- The locals of a function: its parameters, then the groups of its body. -/
def expandLocals (params : List ValueType) (groups : List (Nat × ValueType)) :
    Except Defect (Array ValueType) := do
  let total := groups.foldl (fun n g => n + g.1) params.length
  require (total ≤ maxLocals) .tooLarge
  return groups.foldl (fun ts g => ts ++ Array.replicate g.1 g.2) params.toArray

/-- Tables and memories, imported ones among them, are few. -/
def maxSpaces : Nat := 100

/-- What the indices of the module stand for. -/
def context (m : Module) : Except Defect Context := do
  let importedFunctions ← resolveTypes m.types m.importedFunctions
  let functions := importedFunctions ++ (← resolveTypes m.types m.functions)
  let importedGlobals := m.importedGlobals
  let mentioned := m.mentioned
  return {
    types := m.types
    functions
    tables := m.importedTables ++ m.tables
    memories := m.importedMemories ++ m.memories
    globals := importedGlobals ++ m.globals.map (·.type)
    importedGlobals := importedGlobals.size
    elements := m.elements.map (·.type)
    dataCount := m.dataCount
    referable := mentioned.foldl (fun seen f => seen.setIfInBounds f true)
      (Array.replicate functions.size false)
    locals := #[]
    results := []
  }

def checkExport (c : Context) (e : Export) : Except Defect Unit :=
  match e.target with
  | .function i => require (i < c.functions.size) .unknownIndex
  | .table i => require (i < c.tables.size) .unknownIndex
  | .memory i => require (i < c.memories.size) .unknownIndex
  | .global i => require (i < c.globals.size) .unknownIndex

def checkElement (c : Context) (e : ElementSegment) : Except Defect Unit := do
  match e.mode with
  | .active table offset =>
    match c.tables[table]? with
    | none => throw .unknownIndex
    | some t =>
      require (t.element == e.type) .typeMismatch
      c.checkConstant (.int t.address) offset
  | _ => pure ()
  e.items.forM (c.checkConstant e.type)

def checkData (c : Context) (d : DataSegment) : Except Defect Unit := do
  match d.mode with
  | .active memory offset =>
    match c.memories[memory]? with
    | none => throw .unknownIndex
    | some t => c.checkConstant (.int t.address) offset
  | _ => pure ()

def checkBody (c : Context) (type : FuncType) (body : Body) : Except Defect Unit := do
  let locals ← expandLocals type.params body.locals
  { c with locals, results := type.results }.checkCode body.code

/-- Checks a module and tells what its indices stand for. -/
def validate (m : Module) : Except Defect Context := do
  let c ← m.context
  require (c.tables.size ≤ maxSpaces && c.memories.size ≤ maxSpaces) .tooLarge
  c.tables.forM checkTable
  c.memories.forM checkMemory
  m.globals.forM fun g => c.checkConstant g.type.value g.value
  m.exports.forM (checkExport c)
  require ((m.exports.toList.map (·.name)).Nodup) .duplicateExport
  match m.start with
  | none => pure ()
  | some f => require (c.functions[f]? == some ⟨[], []⟩) .typeMismatch
  m.elements.forM (checkElement c)
  m.data.forM (checkData c)
  require (m.dataCount.getD m.data.size == m.data.size) .inconsistent
  require (m.bodies.size == m.functions.size) .inconsistent
  let defined := c.functions.extract (c.functions.size - m.functions.size) c.functions.size
  (defined.zip m.bodies).forM fun (type, body) => checkBody c type body
  return c

end Module

end Playground.Wasm
