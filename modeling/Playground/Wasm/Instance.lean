import Playground.Wasm.Validate
import Playground.Wasm.Machine

/-!
# Instances

A module that is ready to run: its imports are bound, its own memories, tables and globals are made,
and its segments are copied into place. The world outside offers two things, both in one name space:
one linear memory and the request to print.

* `LinkError` — why a module cannot be made ready.
* `createMemory` — the memory that the module asks for, with one page at least.
* `instantiate` — the module made ready.
* `Instance.entry` — the exported function of a name, if it can be an entry point.
-/

set_option autoImplicit false

namespace Playground.Wasm

/-- Why a module cannot be made ready. -/
inductive LinkError where
  /-- No import asks for the memory. -/
  | noMemory
  /-- The import of the memory's name asks for something else. -/
  | notAMemory
  | memoryRefused (r : Memory.Refusal)
  /-- The memory has no pages and cannot be given one. -/
  | pageRefused (r : Memory.Refusal)
  | unknownImport (space name : String)
  /-- The import asks for another sort of thing than has the name. -/
  | wrongSort (space name : String)
  | functionMismatch
  | memoryMismatch
  | ownMemoryRefused (r : Memory.Refusal)
  /-- An element segment that does not fit its table. -/
  | elementBounds
  /-- A data segment that does not fit its memory. -/
  | dataBounds
  deriving DecidableEq, Repr

/-- What the outside offers: the name space and the name of each thing. -/
structure Offer where
  space : String
  deriving DecidableEq, Repr

def memoryName : String := "memory"
def printName : String := "print_string"

/-- The imports in the order in which they are bound: functions, tables, memories, globals. -/
def Module.orderedImports (m : Module) : List Import :=
  let imports := m.imports.toList
  let ofSort (sort : ImportType → Bool) := imports.filter (fun i => sort i.type)
  ofSort (fun t => match t with | .function _ => true | _ => false)
    ++ ofSort (fun t => match t with | .table _ => true | _ => false)
    ++ ofSort (fun t => match t with | .memory _ => true | _ => false)
    ++ ofSort (fun t => match t with | .global _ => true | _ => false)

/-- The memory type that the module asks for under the memory's name. -/
def Module.wantedMemory (m : Module) (o : Offer) : Except LinkError MemoryType :=
  match m.orderedImports.find? (fun i => i.space == o.space && i.name == memoryName) with
  | none => .error .noMemory
  | some ⟨_, _, .memory t⟩ => .ok t
  | some _ => .error .notAMemory

/-- The memory a module asks for. One without pages is given its first page. -/
def createMemory (t : MemoryType) (cap : Option Nat) : Except LinkError Memory :=
  match Memory.new? t cap with
  | .error r => .error (.memoryRefused r)
  | .ok memory =>
    if memory.pages = 0 then (memory.grow? 1).mapError .pageRefused else .ok memory

/-- Each import must name something on offer, of the sort it asks for. -/
def Offer.resolve (o : Offer) (i : Import) : Except LinkError Unit :=
  if i.space ≠ o.space then .error (.unknownImport i.space i.name)
  else if i.name = memoryName then
    match i.type with
    | .memory _ => .ok ()
    | _ => .error (.wrongSort i.space i.name)
  else if i.name = printName then
    match i.type with
    | .function _ => .ok ()
    | _ => .error (.wrongSort i.space i.name)
  else .error (.unknownImport i.space i.name)

/-- Whether a memory of a type can stand for an import that wants another: it is large enough now
and cannot outgrow the wanted bound. -/
def Memory.suits (memory : Memory) (own wanted : MemoryType) : Bool :=
  own.address == wanted.address && wanted.size.min ≤ memory.pages &&
    match wanted.size.max, own.size.max with
    | none, _ => true
    | some _, none => false
    | some most, some bound => bound ≤ most

/-- Each import must have the type of the thing it names. -/
def checkImport (c : Context) (memory : Memory) (own : MemoryType) (i : Import) :
    Except LinkError Unit :=
  match i.type with
  | .function t => if c.types[t]? = some printType then .ok () else .error .functionMismatch
  | .memory t => if memory.suits own t then .ok () else .error .memoryMismatch
  | _ => .ok ()

/-- The value of a constant expression. -/
def constant (code : Array Instr) : Cell :=
  let stack := code.foldl
    (fun (stack : List Cell) i =>
      match i with
      | .const _ value => value :: stack
      | .refFunc f => (f + 1).toUInt64 :: stack
      | .binary op =>
        let (b, stack) := popCell stack
        let (a, stack) := popCell stack
        ((op.eval a b).toOption.getD 0) :: stack
      | _ => 0 :: stack)
    []
  (popCell stack).1

/-- A module made ready. -/
structure Instance where
  program : Program
  store : Store
  exports : Array Export
  start : Option Nat

namespace Instance

/-- The functions of a module: the imported ones all ask to print. -/
def functions (m : Module) (c : Context) : Array Function :=
  let imported := m.importedFunctions.size
  let own := (c.functions.extract imported c.functions.size).zip m.bodies
  Array.replicate imported .print ++ own.map fun (type, body) =>
    .code {
      type
      extraLocals := (body.locals.map (·.1)).foldl (· + ·) 0
      instrs := body.code
      partners := partners body.code
    }

/-- Copies one active element segment into its table; it is spent then, as a declared one is. -/
def placeElements (s : Store) (entry : Nat × ElementSegment) : Except LinkError Store :=
  let (i, segment) := entry
  match segment.mode with
  | .passive => .ok s
  | .declared => .ok { s with elements := s.elements.setIfInBounds i #[] }
  | .active table offset =>
    let start := (constant offset).toNat
    let cells := (s.elements[i]?).getD #[]
    match s.tables[table]? with
    | none => .error .elementBounds
    | some t =>
      if start + cells.size ≤ t.cells.size then
        let t := { t with cells := Machine.putCells t.cells start cells.toList }
        .ok { s with
          tables := s.tables.setIfInBounds table t
          elements := s.elements.setIfInBounds i #[] }
      else .error .elementBounds

/-- Copies one active data segment into its memory; it is spent then. -/
def placeData (p : Program) (s : Store) (entry : Nat × DataSegment) : Except LinkError Store :=
  let (i, segment) := entry
  match segment.mode with
  | .active index offset =>
    let memoryIndex := (Machine.memoryAt p index).1
    match s.memories[memoryIndex]? with
    | none => .error .dataBounds
    | some memory =>
      match memory.writeBytes? (constant offset).toNat segment.bytes with
      | none => .error .dataBounds
      | some memory =>
        .ok { s with
          memories := s.memories.setIfInBounds memoryIndex memory
          data := s.data.setIfInBounds i [] }
  | _ => .ok s

/-- The entries of an array with their indices. -/
def numbered {α : Type} (xs : Array α) : List (Nat × α) := xs.toList.zipIdx.map fun (x, i) => (i, x)

/-- The tables that a module defines, all of their elements null. -/
def newTable (t : TableType) : Table where
  cells := Array.replicate t.size.min 0
  max := t.size.max.getD (Nat.pow 2 t.address.bits - 1)

/-- The memory indices: the imported ones all stand for the one memory, at the front of the store. -/
def memoryPlaces (m : Module) : Array (Nat × Width) :=
  m.importedMemories.map (fun t => (0, t.address))
    ++ m.memories.mapIdx fun i t => (i + 1, t.address)

/-- Makes a module ready around the memory that was created for it. -/
def build (m : Module) (c : Context) (memory : Memory) (cap : Option Nat) :
    Except LinkError Instance := do
  let own ← m.memories.mapM fun t => (Memory.new? t cap).mapError .ownMemoryRefused
  let program : Program := {
    types := c.types
    functions := functions m c
    memories := memoryPlaces m
    tables := c.tables.map (·.address)
  }
  let store : Store := {
    memories := #[memory] ++ own
    tables := m.tables.map newTable
    globals := m.globals.map fun g => constant g.value
    elements := m.elements.map fun e => (e.items.map constant).toArray
    data := m.data.map (·.bytes)
  }
  let store ← (numbered m.elements).foldlM placeElements store
  let store ← (numbered m.data).foldlM (placeData program) store
  return ⟨program, store, m.exports, m.start⟩

end Instance

/-- Makes a valid module ready: the memory is created, the imports are bound and checked in order,
and the segments are put into place. -/
def instantiate (m : Module) (c : Context) (o : Offer) (cap : Option Nat) :
    Except LinkError Instance := do
  let wanted ← m.wantedMemory o
  let memory ← createMemory wanted cap
  m.orderedImports.forM o.resolve
  m.orderedImports.forM (checkImport c memory wanted)
  Instance.build m c memory cap

/-- Why an instance has no entry point of a name. -/
inductive EntryError where
  | notExported
  | takesParameters
  | leavesResults
  deriving DecidableEq, Repr

/-- The reason in words. -/
def EntryError.message : EntryError → String
  | notExported => "could not find exported function"
  | takesParameters => "encountered an incorrect number of parameters"
  | leavesResults => "encountered an incorrect number of results"

namespace Instance

/-- The machine that runs function `index`, if it has code. -/
def machine? (i : Instance) (store : Store) (index : Nat) : Option Machine :=
  match i.program.functions[index]? with
  | some (.code c) => some (Machine.enter c store)
  | _ => none

/-- The index of the function exported under a name, which must take and leave nothing. -/
def entry (i : Instance) (name : String) : Except EntryError Nat :=
  match i.exports.find? (·.name == name) with
  | some ⟨_, .function index⟩ =>
    match i.program.functions[index]? with
    | none => .error .notExported
    | some f =>
      if !f.type.params.isEmpty then .error .takesParameters
      else if !f.type.results.isEmpty then .error .leavesResults
      else .ok index
  | _ => .error .notExported

end Instance

end Playground.Wasm
