import Playground.Wasm.Module
import Playground.Wasm.Memory

/-!
# The machine

Runs valid code one instruction at a time. The machine cannot print: it stops with a request, and
whoever drives it decides whether it goes on.

* `Store` — what instructions can change: memories, tables, globals and segments.
* `Frame`, `Machine` — a function in progress, and the calls it is nested in.
* `Progress` — what one step came to.
* `Machine.step` — one instruction.
-/

set_option autoImplicit false

namespace Playground.Wasm

/-- A table of references. -/
structure Table where
  cells : Array Cell
  /-- The greatest number of elements it may have. -/
  max : Nat

/-- What instructions can change. -/
structure Store where
  memories : Array Memory
  tables : Array Table
  globals : Array Cell
  /-- References for `table.init`; a dropped segment is empty. -/
  elements : Array (Array Cell)
  /-- Bytes for `memory.init`; a dropped segment is empty. -/
  data : Array (List UInt8)

/-- The code of a defined function, ready to run. -/
structure Code where
  type : FuncType
  /-- Number of locals behind the parameters. -/
  extraLocals : Nat
  instrs : Array Instr
  /-- For an opening bracket or an `else`, the place of its `else` or end. -/
  partners : Array Nat

/-- What can be called. -/
inductive Function where
  /-- The request to print a range of memory. -/
  | print
  | code (c : Code)

/-- The type of the print request: an offset and a length. -/
def printType : FuncType := ⟨[.i64, .i64], []⟩

def Function.type : Function → FuncType
  | print => printType
  | code c => c.type

/-- What stays fixed while a module runs. -/
structure Program where
  types : Array FuncType
  functions : Array Function
  /-- For each memory index, where the store has the memory and the width of its addresses. -/
  memories : Array (Nat × Width)
  /-- For each table index, the width of its indices. -/
  tables : Array Width

/-- What a branch to an open bracket does. -/
structure Label where
  /-- Number of values handed over. -/
  arity : Nat
  /-- The instruction to go on with. -/
  target : Nat
  /-- The operands below the bracket. -/
  outer : List Cell

/-- A function in progress. -/
structure Frame where
  code : Code
  /-- The next instruction. -/
  pc : Nat
  stack : List Cell
  labels : List Label
  locals : Array Cell

/-- A machine in progress. -/
structure Machine where
  frame : Frame
  /-- The calls that wait, innermost first. -/
  callers : List Frame
  /-- Number of frames. -/
  depth : Nat
  store : Store

/-- What one step of a machine with states `σ` came to. -/
inductive Progress (σ : Type) where
  | running (next : σ)
  /-- The program asks to print a range of its memory and goes on at `next`. -/
  | printing (memory : Memory) (offset length : UInt64) (next : σ)
  | finished (store : Store)
  | trapped (t : Trap)

/-- Greatest number of nested calls. -/
def maxDepth : Nat := 1000

/-- Greatest number of elements in a table. -/
def tableBound : Nat := 10000000

/-! ## Brackets -/

/-- One step of `partners`: the brackets that are open and the partners found so far. -/
def partnerStep (state : List Nat × Array Nat × Nat) (i : Instr) : List Nat × Array Nat × Nat :=
  let (opened, found, pc) := state
  match i, opened with
  | .block _, _ | .loop _, _ | .ifThen _, _ => (pc :: opened, found, pc + 1)
  | .elseMark, o :: rest => (pc :: rest, found.setIfInBounds o pc, pc + 1)
  | .endMark, o :: rest => (rest, found.setIfInBounds o pc, pc + 1)
  | _, _ => (opened, found, pc + 1)

/-- For every opening bracket and every `else` of valid code, its `else` or end. -/
def partners (code : Array Instr) : Array Nat :=
  (code.foldl partnerStep ([], Array.replicate code.size 0, 0)).2.1

/-! ## Cells -/

/-- The top of a stack. Valid code never takes from an empty one. -/
@[inline] def popCell (stack : List Cell) : Cell × List Cell :=
  match stack with
  | c :: rest => (c, rest)
  | [] => (0, [])

/-- A number of a width as a cell, its excess cut off. -/
def cellOf (w : Width) (n : Nat) : Cell :=
  match w with
  | .w32 => n.toUInt32.toUInt64
  | .w64 => n.toUInt64

/-- What an instruction gives that could not do what it should: all bits set. -/
def failure : Width → Cell
  | .w32 => 0xFFFFFFFF
  | .w64 => 0xFFFFFFFFFFFFFFFF

/-- The value read from memory, widened to its type. -/
def widen (access : Access) (x : UInt64) : Cell :=
  if access.signed then
    let wide : Cell := match access.bytes with
      | 1 => x.toUInt8.toInt8.toInt64.toUInt64
      | 2 => x.toUInt16.toInt16.toInt64.toUInt64
      | _ => x.toUInt32.toInt32.toInt64.toUInt64
    if access.type == .i32 then wide.toUInt32.toUInt64 else wide
  else x

/-- How many values a block takes and leaves. -/
def blockArity (p : Program) : BlockType → Nat × Nat
  | .empty => (0, 0)
  | .value _ => (0, 1)
  | .function i =>
    match p.types[i]? with
    | some t => (t.params.length, t.results.length)
    | none => (0, 0)

/-! ## Calls and branches -/

namespace Machine

/-- A machine about to run a function without arguments. -/
def enter (c : Code) (store : Store) : Machine where
  frame := ⟨c, 0, [], [], Array.replicate (c.type.params.length + c.extraLocals) 0⟩
  callers := []
  depth := 1
  store := store

/-- Goes on behind the present instruction, with another stack. -/
@[inline] def next (m : Machine) (stack : List Cell) : Progress Machine :=
  .running { m with frame := { m.frame with pc := m.frame.pc + 1, stack } }

/-- Goes on behind the present instruction, with another stack and store. -/
@[inline] def nextStore (m : Machine) (stack : List Cell) (store : Store) : Progress Machine :=
  .running { m with frame := { m.frame with pc := m.frame.pc + 1, stack }, store }

/-- Leaves the function with its results. -/
def leave (m : Machine) : Progress Machine :=
  match m with
  | ⟨frame, callers, depth, store⟩ =>
    match callers with
    | [] => .finished store
    | caller :: rest =>
      let results := frame.stack.take frame.code.type.results.length
      .running ⟨{ caller with stack := results ++ caller.stack }, rest, depth - 1, store⟩

/-- Goes on where a branch leads. The outermost label stands for the function itself. -/
def branch (m : Machine) (label : Nat) : Progress Machine :=
  match m.frame.labels.drop label with
  | [] => m.leave
  | l :: labels =>
    let stack := m.frame.stack.take l.arity ++ l.outer
    .running { m with frame := { m.frame with pc := l.target, stack, labels } }

/-- The frame of a call, its arguments taken from the stack, and what is left of the stack. -/
def frameOf (c : Code) (stack : List Cell) : Frame × List Cell :=
  let (arguments, rest) := stack.splitAt c.type.params.length
  (⟨c, 0, [], [], arguments.reverse.toArray ++ Array.replicate c.extraLocals 0⟩, rest)

/-- Asks to print the range on top of the stack. The memory is the first one of the store. -/
def request (m : Machine) (stack : List Cell) (pc : Nat) : Progress Machine :=
  let (length, stack) := popCell stack
  let (offset, stack) := popCell stack
  match m.store.memories[0]? with
  | none => .trapped .memoryBounds
  | some memory =>
    .printing memory offset length { m with frame := { m.frame with pc, stack } }

/-- Calls a function; the stack holds its arguments. -/
def call (m : Machine) (f : Function) (stack : List Cell) : Progress Machine :=
  match f with
  | .print => m.request stack (m.frame.pc + 1)
  | .code c =>
    if m.depth ≥ maxDepth then .trapped .stackExhausted
    else
      let (frame, rest) := frameOf c stack
      let caller := { m.frame with pc := m.frame.pc + 1, stack := rest }
      .running ⟨frame, caller :: m.callers, m.depth + 1, m.store⟩

/-- Calls a function in place of the present one. -/
def tailCall (m : Machine) (f : Function) (stack : List Cell) : Progress Machine :=
  match f with
  | .print => m.request stack m.frame.code.instrs.size
  | .code c => .running { m with frame := (frameOf c stack).1 }

/-- The function that an element of a table names, if it has the wanted type. -/
def indirect (p : Program) (m : Machine) (type table : Nat) (index : Cell) :
    Except Trap Function :=
  match m.store.tables[table]? with
  | none => .error .tableIndex
  | some t =>
    match t.cells[index.toNat]? with
    | none => .error .tableIndex
    | some cell =>
      if cell = 0 then .error .nullFunction
      else
        match p.functions[cell.toNat - 1]? with
        | none => .error .nullFunction
        | some f => if p.types[type]? = some f.type then .ok f else .error .signatureMismatch

/-! ## Memory -/

/-- The place of a memory in the store, and the width of its addresses. -/
def memoryAt (p : Program) (index : Nat) : Nat × Width := (p.memories[index]?).getD (0, .w32)

def loadValue (p : Program) (m : Machine) (access : Access) (place : Place) : Progress Machine :=
  let (address, stack) := popCell m.frame.stack
  match m.store.memories[(memoryAt p place.memory).1]? with
  | none => .trapped .memoryBounds
  | some memory =>
    match memory.read? (address.toNat + place.offset) access.bytes with
    | none => .trapped .memoryBounds
    | some x => m.next (widen access x :: stack)

/-- Changes one memory of a store. -/
@[inline] def changeMemory (s : Store) (i : Nat) (f : Memory → Memory) : Store :=
  { s with memories := s.memories.modify i f }

/-- Changes one table of a store. -/
@[inline] def changeTable (s : Store) (i : Nat) (f : Table → Table) : Store :=
  { s with tables := s.tables.modify i f }

/-- The size in bytes of a memory of the store. -/
def memorySize (s : Store) (i : Nat) : Nat := (s.memories[i]?.map (·.size)).getD 0

def storeValue (p : Program) (m : Machine) (access : Access) (place : Place) : Progress Machine :=
  match m with
  | ⟨frame, callers, depth, s⟩ =>
    let (x, stack) := popCell frame.stack
    let (address, stack) := popCell stack
    let i := (memoryAt p place.memory).1
    let start := address.toNat + place.offset
    if start + access.bytes ≤ memorySize s i then
      .running ⟨{ frame with pc := frame.pc + 1, stack }, callers, depth,
        changeMemory s i (·.putNumber start x access.bytes)⟩
    else .trapped .memoryBounds

def grow (p : Program) (m : Machine) (index : Nat) : Progress Machine :=
  let (delta, stack) := popCell m.frame.stack
  let (i, width) := memoryAt p index
  match m.store.memories[i]? with
  | none => .trapped .memoryBounds
  | some memory =>
    match memory.grow? delta.toNat with
    | .error _ => m.next (failure width :: stack)
    | .ok grown =>
      m.nextStore (cellOf width memory.pages :: stack) (changeMemory m.store i fun _ => grown)

/-- Puts bytes into a memory, if they fit. -/
def putBytes (m : Machine) (stack : List Cell) (i start : Nat) (bytes : List UInt8) :
    Progress Machine :=
  if start + bytes.length ≤ memorySize m.store i then
    m.nextStore stack (changeMemory m.store i (·.putBytes start bytes))
  else .trapped .memoryBounds

/-- The three operands of a bulk instruction, the last one first, and the stack below. -/
def popThree (stack : List Cell) : Cell × Cell × Cell × List Cell :=
  let (c, stack) := popCell stack
  let (b, stack) := popCell stack
  let (a, stack) := popCell stack
  (c, b, a, stack)

def memoryInit (p : Program) (m : Machine) (segment index : Nat) : Progress Machine :=
  let (count, source, target, stack) := popThree m.frame.stack
  let bytes := (m.store.data[segment]?).getD []
  if source.toNat + count.toNat ≤ bytes.length then
    m.putBytes stack (memoryAt p index).1 target.toNat
      ((bytes.drop source.toNat).take count.toNat)
  else .trapped .memoryBounds

def memoryCopy (p : Program) (m : Machine) (target source : Nat) : Progress Machine :=
  let (count, start, goal, stack) := popThree m.frame.stack
  match m.store.memories[(memoryAt p source).1]? with
  | none => .trapped .memoryBounds
  | some memory =>
    if goal.toNat + count.toNat ≤ memorySize m.store (memoryAt p target).1 then
      match memory.range? start.toNat count.toNat with
      | none => .trapped .memoryBounds
      | some bytes => m.putBytes stack (memoryAt p target).1 goal.toNat bytes
    else .trapped .memoryBounds

def memoryFill (p : Program) (m : Machine) (index : Nat) : Progress Machine :=
  let (count, value, start, stack) := popThree m.frame.stack
  let i := (memoryAt p index).1
  if start.toNat + count.toNat ≤ memorySize m.store i then
    m.putBytes stack i start.toNat (List.replicate count.toNat value.toUInt8)
  else .trapped .memoryBounds

/-! ## Tables -/

def tableCells (s : Store) (i : Nat) : Array Cell := (s.tables[i]?.map (·.cells)).getD #[]

/-- The width of indices of a table. -/
def tableWidth (p : Program) (i : Nat) : Width := (p.tables[i]?).getD .w32

/-- The cells with others put one after another from an index on. -/
def putCells (cells : Array Cell) (start : Nat) : List Cell → Array Cell
  | [] => cells
  | c :: rest => putCells (cells.setIfInBounds start c) (start + 1) rest

def tableGet (m : Machine) (table : Nat) : Progress Machine :=
  let (index, stack) := popCell m.frame.stack
  match (tableCells m.store table)[index.toNat]? with
  | none => .trapped .tableIndex
  | some cell => m.next (cell :: stack)

def tableSet (m : Machine) (table : Nat) : Progress Machine :=
  let (value, stack) := popCell m.frame.stack
  let (index, stack) := popCell stack
  if index.toNat < (tableCells m.store table).size then
    m.nextStore stack
      (changeTable m.store table fun t => { t with cells := t.cells.setIfInBounds index.toNat value })
  else .trapped .tableIndex

def tableInit (m : Machine) (segment table : Nat) : Progress Machine :=
  let (count, source, target, stack) := popThree m.frame.stack
  let cells := (m.store.elements[segment]?).getD #[]
  if source.toNat + count.toNat ≤ cells.size ∧
      target.toNat + count.toNat ≤ (tableCells m.store table).size then
    let part := (cells.extract source.toNat (source.toNat + count.toNat)).toList
    m.nextStore stack
      (changeTable m.store table fun t => { t with cells := putCells t.cells target.toNat part })
  else .trapped .tableInit

def tableCopy (m : Machine) (target source : Nat) : Progress Machine :=
  let (count, start, goal, stack) := popThree m.frame.stack
  let cells := tableCells m.store source
  if start.toNat + count.toNat ≤ cells.size ∧
      goal.toNat + count.toNat ≤ (tableCells m.store target).size then
    let part := (cells.extract start.toNat (start.toNat + count.toNat)).toList
    m.nextStore stack
      (changeTable m.store target fun t => { t with cells := putCells t.cells goal.toNat part })
  else .trapped .tableCopy

def tableGrow (p : Program) (m : Machine) (table : Nat) : Progress Machine :=
  let (delta, stack) := popCell m.frame.stack
  let (value, stack) := popCell stack
  match m.store.tables[table]? with
  | none => .trapped .tableIndex
  | some t =>
    let size := t.cells.size
    if size + delta.toNat ≤ t.max ∧ size + delta.toNat ≤ tableBound then
      m.nextStore (cellOf (tableWidth p table) size :: stack)
        (changeTable m.store table fun t =>
          { t with cells := t.cells ++ Array.replicate delta.toNat value })
    else m.next (failure (tableWidth p table) :: stack)

def tableFill (m : Machine) (table : Nat) : Progress Machine :=
  let (count, value, start, stack) := popThree m.frame.stack
  if start.toNat + count.toNat ≤ (tableCells m.store table).size then
    m.nextStore stack
      (changeTable m.store table fun t =>
        { t with cells := putCells t.cells start.toNat (List.replicate count.toNat value) })
  else .trapped .tableFill

/-! ## Control -/

/-- Opens a bracket that a branch leaves for `target`. -/
def openBracket (m : Machine) (stack : List Cell) (params arity target pc : Nat) :
    Progress Machine :=
  let label : Label := ⟨arity, target, stack.drop params⟩
  .running { m with frame := { m.frame with pc, stack, labels := label :: m.frame.labels } }

/-- The partner of the bracket at a place. -/
def partner (m : Machine) (pc : Nat) : Nat := (m.frame.code.partners[pc]?).getD 0

/-- Whether there is an `else` at a place. -/
def isElse (m : Machine) (pc : Nat) : Bool :=
  match m.frame.code.instrs[pc]? with
  | some .elseMark => true
  | _ => false

/-- Takes one branch of an `if`. Without an `else` the other branch is empty. -/
def choose (p : Program) (m : Machine) (type : BlockType) : Progress Machine :=
  let (condition, stack) := popCell m.frame.stack
  let (params, arity) := blockArity p type
  let mark := m.partner m.frame.pc
  let stop := if m.isElse mark then m.partner mark else mark
  if condition ≠ 0 then m.openBracket stack params arity (stop + 1) (m.frame.pc + 1)
  else if m.isElse mark then m.openBracket stack params arity (stop + 1) (mark + 1)
  else .running { m with frame := { m.frame with pc := stop + 1, stack } }

/-- Passes the end of a bracket and goes on at `pc`, or leaves the function. -/
def close (m : Machine) (pc : Nat) : Progress Machine :=
  match m.frame.labels with
  | [] => m.leave
  | _ :: labels => .running { m with frame := { m.frame with pc, labels } }

/-- One instruction. Behind its last instruction a function is left. -/
def step (p : Program) (m : Machine) : Progress Machine :=
  match m.frame.code.instrs[m.frame.pc]? with
  | none => m.leave
  | some i =>
    match i with
    | .unreachable => .trapped .unreachable
    | .nop => m.next m.frame.stack
    | .block t =>
      let (params, arity) := blockArity p t
      m.openBracket m.frame.stack params arity (m.partner m.frame.pc + 1) (m.frame.pc + 1)
    | .loop t =>
      let (params, _) := blockArity p t
      m.openBracket m.frame.stack params params m.frame.pc (m.frame.pc + 1)
    | .ifThen t => m.choose p t
    | .elseMark => m.close (m.partner m.frame.pc + 1)
    | .endMark => m.close (m.frame.pc + 1)
    | .br label => m.branch label
    | .brIf label =>
      let (condition, stack) := popCell m.frame.stack
      if condition = 0 then m.next stack
      else { m with frame := { m.frame with stack } }.branch label
    | .brTable labels default =>
      let (index, stack) := popCell m.frame.stack
      { m with frame := { m.frame with stack } }.branch ((labels[index.toNat]?).getD default)
    | .ret => m.leave
    | .call f =>
      match p.functions[f]? with
      | none => .trapped .nullFunction
      | some f => m.call f m.frame.stack
    | .callIndirect type table =>
      let (index, stack) := popCell m.frame.stack
      match m.indirect p type table index with
      | .error t => .trapped t
      | .ok f => m.call f stack
    | .tailCall f =>
      match p.functions[f]? with
      | none => .trapped .nullFunction
      | some f => m.tailCall f m.frame.stack
    | .tailCallIndirect type table =>
      let (index, stack) := popCell m.frame.stack
      match m.indirect p type table index with
      | .error t => .trapped t
      | .ok f => m.tailCall f stack
    | .drop => m.next (popCell m.frame.stack).2
    | .select | .selectTyped _ =>
      let (condition, b, a, stack) := popThree m.frame.stack
      m.next ((if condition ≠ 0 then a else b) :: stack)
    | .localGet x => m.next ((m.frame.locals[x]?).getD 0 :: m.frame.stack)
    | .localSet x =>
      match m with
      | ⟨⟨code, pc, stack, labels, locals⟩, callers, depth, store⟩ =>
        let (value, stack) := popCell stack
        .running ⟨⟨code, pc + 1, stack, labels, locals.setIfInBounds x value⟩,
          callers, depth, store⟩
    | .localTee x =>
      match m with
      | ⟨⟨code, pc, stack, labels, locals⟩, callers, depth, store⟩ =>
        .running ⟨⟨code, pc + 1, stack, labels, locals.setIfInBounds x (popCell stack).1⟩,
          callers, depth, store⟩
    | .globalGet x => m.next ((m.store.globals[x]?).getD 0 :: m.frame.stack)
    | .globalSet x =>
      let (value, stack) := popCell m.frame.stack
      m.nextStore stack { m.store with globals := m.store.globals.setIfInBounds x value }
    | .tableGet x => m.tableGet x
    | .tableSet x => m.tableSet x
    | .load access place => m.loadValue p access place
    | .store access place => m.storeValue p access place
    | .memorySize x =>
      let (i, width) := memoryAt p x
      m.next (cellOf width (Machine.memorySize m.store i / pageSize) :: m.frame.stack)
    | .memoryGrow x => m.grow p x
    | .const _ value => m.next (value :: m.frame.stack)
    | .unary op =>
      let (a, stack) := popCell m.frame.stack
      match op.eval a with
      | .ok c => m.next (c :: stack)
      | .error t => .trapped t
    | .binary op =>
      let (b, stack) := popCell m.frame.stack
      let (a, stack) := popCell stack
      match op.eval a b with
      | .ok c => m.next (c :: stack)
      | .error t => .trapped t
    | .refNull _ => m.next (0 :: m.frame.stack)
    | .refIsNull =>
      let (a, stack) := popCell m.frame.stack
      m.next ((if a = 0 then 1 else 0) :: stack)
    | .refFunc f => m.next ((f + 1).toUInt64 :: m.frame.stack)
    | .memoryInit segment x => m.memoryInit p segment x
    | .dataDrop segment =>
      m.nextStore m.frame.stack { m.store with data := m.store.data.setIfInBounds segment [] }
    | .memoryCopy target source => m.memoryCopy p target source
    | .memoryFill x => m.memoryFill p x
    | .tableInit segment x => m.tableInit segment x
    | .elemDrop segment =>
      m.nextStore m.frame.stack
        { m.store with elements := m.store.elements.setIfInBounds segment #[] }
    | .tableCopy target source => m.tableCopy target source
    | .tableGrow x => m.tableGrow p x
    | .tableSize x =>
      m.next (cellOf (tableWidth p x) (tableCells m.store x).size :: m.frame.stack)
    | .tableFill x => m.tableFill x

end Machine

end Playground.Wasm
