import Playground.Wasm.Module
import Playground.Wasm.Bytes

/-!
# The binary form of modules

Reads a module from its bytes. The header is followed by sections in a fixed order; custom sections
may stand anywhere and only their names are looked at.

* `Decode.instr` — one instruction.
* `Decode.expression` — the instructions of a constant expression, up to its end.
* `Module.decode` — a whole module.
-/

set_option autoImplicit false

namespace Playground.Wasm

open Reader

namespace Decode

/-! ## Types -/

/-- The heap type of a reference: functions or foreign values. -/
def heapType : Reader ValueType := do
  match ← byte with
  | 0x70 => return .function
  | 0x6F => return .foreign
  | _ => fail .unsupported

/-- A value type by its first byte, if it begins with one. A reference that may be null has a long
form, too. -/
def valueType : Reader ValueType := do
  match ← byte with
  | 0x7F => return .i32
  | 0x7E => return .i64
  | 0x7D => return .f32
  | 0x7C => return .f64
  | 0x70 => return .function
  | 0x6F => return .foreign
  | 0x63 => heapType
  | _ => fail .unsupported

def referenceType : Reader ValueType := do
  let t ← valueType
  require t.isReference .malformed
  return t

def maxArity : Nat := 1000

/-- A function type. It may be marked as final. -/
def funcType : Reader FuncType := do
  match ← byte with
  | 0x60 => signature
  | 0x4F =>
    require ((← u32) == 0) .unsupported
    require ((← byte) == 0x60) .unsupported
    signature
  | _ => fail .unsupported
where
  signature : Reader FuncType := do
    let params ← counted maxArity valueType
    let results ← counted maxArity valueType
    return ⟨params.toList, results.toList⟩

/-- A least and, if `bounded`, a greatest size. -/
def sizeRange (address : Width) (bounded : Bool) : Reader SizeRange := do
  let min ← unsigned address.bits
  if bounded then return ⟨min, some (← unsigned address.bits)⟩ else return ⟨min, none⟩

/-- The address width and size that a byte of flags announces. The flag of shared memory is refused
here, as are flags without a meaning. -/
def addressed : Reader (Width × SizeRange) := do
  let flags ← byte
  require (flags &&& 0xFA == 0) .unsupported
  let address : Width := if flags &&& 4 == 0 then .w32 else .w64
  return (address, ← sizeRange address (flags &&& 1 == 1))

def tableType : Reader TableType := do
  let element ← referenceType
  let (address, size) ← addressed
  return ⟨address, element, size⟩

def memoryType : Reader MemoryType := do
  let (address, size) ← addressed
  return ⟨address, size⟩

def globalType : Reader GlobalType := do
  let value ← valueType
  match ← byte with
  | 0 => return ⟨value, false⟩
  | 1 => return ⟨value, true⟩
  | _ => fail .malformed

/-- The type of a block: one byte, or the index of a function type as a signed number. -/
def blockType : Reader BlockType := do
  match ← peek with
  | none => fail .truncated
  | some b =>
    if b == 0x40 then
      let _ ← byte
      return .empty
    else if b ≥ 0x41 && b < 0x80 then return .value (← valueType)
    else
      match ← signed 33 with
      | .ofNat i => return .function i
      | .negSucc _ => fail .malformed

/-! ## Instructions -/

def intUnaries : Array IntUnary := #[.clz, .ctz, .popcnt]

def intBinaries : Array IntBinary :=
  #[.add, .sub, .mul, .divS, .divU, .remS, .remU, .and, .or, .xor, .shl, .shrS, .shrU, .rotl, .rotr]

def intCompares : Array IntCompare := #[.eq, .ne, .ltS, .ltU, .gtS, .gtU, .leS, .leU, .geS, .geU]

def floatUnaries : Array FloatUnary := #[.abs, .neg, .ceil, .floor, .trunc, .nearest, .sqrt]

def floatBinaries : Array FloatBinary := #[.add, .sub, .mul, .div, .min, .max, .copysign]

def floatCompares : Array FloatCompare := #[.eq, .ne, .lt, .gt, .le, .ge]

def conversions : Array Conversion :=
  #[.wrap, .truncate .w32 .w32 true false, .truncate .w32 .w32 false false,
    .truncate .w64 .w32 true false, .truncate .w64 .w32 false false,
    .extend true, .extend false,
    .truncate .w32 .w64 true false, .truncate .w32 .w64 false false,
    .truncate .w64 .w64 true false, .truncate .w64 .w64 false false,
    .toFloat .w32 .w32 true, .toFloat .w32 .w32 false,
    .toFloat .w64 .w32 true, .toFloat .w64 .w32 false, .demote,
    .toFloat .w32 .w64 true, .toFloat .w32 .w64 false,
    .toFloat .w64 .w64 true, .toFloat .w64 .w64 false, .promote,
    .bitsOf .w32, .bitsOf .w64, .ofBits .w32, .ofBits .w64]

def extensions : Array UnaryOp :=
  #[.int .w32 .extend8, .int .w32 .extend16, .int .w64 .extend8, .int .w64 .extend16,
    .int .w64 .extend32]

def saturations : Array Conversion :=
  #[.truncate .w32 .w32 true true, .truncate .w32 .w32 false true,
    .truncate .w64 .w32 true true, .truncate .w64 .w32 false true,
    .truncate .w32 .w64 true true, .truncate .w32 .w64 false true,
    .truncate .w64 .w64 true true, .truncate .w64 .w64 false true]

/-- The computing instructions, from opcode 0x45 on. -/
def computing : Array Instr :=
  #[Instr.unary (.isZero .w32)]
  ++ intCompares.map (fun op => Instr.binary (.intCompare .w32 op))
  ++ #[Instr.unary (.isZero .w64)]
  ++ intCompares.map (fun op => Instr.binary (.intCompare .w64 op))
  ++ floatCompares.map (fun op => Instr.binary (.floatCompare .w32 op))
  ++ floatCompares.map (fun op => Instr.binary (.floatCompare .w64 op))
  ++ intUnaries.map (fun op => Instr.unary (.int .w32 op))
  ++ intBinaries.map (fun op => Instr.binary (.int .w32 op))
  ++ intUnaries.map (fun op => Instr.unary (.int .w64 op))
  ++ intBinaries.map (fun op => Instr.binary (.int .w64 op))
  ++ floatUnaries.map (fun op => Instr.unary (.float .w32 op))
  ++ floatBinaries.map (fun op => Instr.binary (.float .w32 op))
  ++ floatUnaries.map (fun op => Instr.unary (.float .w64 op))
  ++ floatBinaries.map (fun op => Instr.binary (.float .w64 op))
  ++ conversions.map (fun c => Instr.unary (.convert c))
  ++ extensions.map Instr.unary

/-- How the loads keep their values, from opcode 0x28 on. -/
def loads : Array Access :=
  #[⟨.i32, 4, false⟩, ⟨.i64, 8, false⟩, ⟨.f32, 4, false⟩, ⟨.f64, 8, false⟩,
    ⟨.i32, 1, true⟩, ⟨.i32, 1, false⟩, ⟨.i32, 2, true⟩, ⟨.i32, 2, false⟩,
    ⟨.i64, 1, true⟩, ⟨.i64, 1, false⟩, ⟨.i64, 2, true⟩, ⟨.i64, 2, false⟩,
    ⟨.i64, 4, true⟩, ⟨.i64, 4, false⟩]

/-- How the stores keep their values, from opcode 0x36 on. -/
def stores : Array Access :=
  #[⟨.i32, 4, false⟩, ⟨.i64, 8, false⟩, ⟨.f32, 4, false⟩, ⟨.f64, 8, false⟩,
    ⟨.i32, 1, false⟩, ⟨.i32, 2, false⟩, ⟨.i64, 1, false⟩, ⟨.i64, 2, false⟩, ⟨.i64, 4, false⟩]

/-- Where a load or store goes. One bit of the alignment says that a memory index follows. -/
def place : Reader Place := do
  let flags ← u32
  require (flags < 128) .malformed
  let memory ← if flags ≥ 64 then u32 else pure 0
  return ⟨flags % 64, memory, ← unsigned 64⟩

/-- The instructions behind opcode 0xFC. -/
def bulk : Reader Instr := do
  let op ← u32
  match saturations[op]? with
  | some c => return .unary (.convert c)
  | none =>
    match op with
    | 8 => return .memoryInit (← u32) (← u32)
    | 9 => return .dataDrop (← u32)
    | 10 => return .memoryCopy (← u32) (← u32)
    | 11 => return .memoryFill (← u32)
    | 12 => return .tableInit (← u32) (← u32)
    | 13 => return .elemDrop (← u32)
    | 14 => return .tableCopy (← u32) (← u32)
    | 15 => return .tableGrow (← u32)
    | 16 => return .tableSize (← u32)
    | 17 => return .tableFill (← u32)
    | _ => fail .unsupported

/-- One instruction. -/
def instr : Reader Instr := do
  let op ← byte
  match op with
  | 0x00 => return .unreachable
  | 0x01 => return .nop
  | 0x02 => return .block (← blockType)
  | 0x03 => return .loop (← blockType)
  | 0x04 => return .ifThen (← blockType)
  | 0x05 => return .elseMark
  | 0x0B => return .endMark
  | 0x0C => return .br (← u32)
  | 0x0D => return .brIf (← u32)
  | 0x0E =>
    let labels ← counted (Nat.pow 2 32) u32
    return .brTable labels (← u32)
  | 0x0F => return .ret
  | 0x10 => return .call (← u32)
  | 0x11 => return .callIndirect (← u32) (← u32)
  | 0x12 => return .tailCall (← u32)
  | 0x13 => return .tailCallIndirect (← u32) (← u32)
  | 0x1A => return .drop
  | 0x1B => return .select
  | 0x1C =>
    require ((← u32) == 1) .malformed
    return .selectTyped (← valueType)
  | 0x20 => return .localGet (← u32)
  | 0x21 => return .localSet (← u32)
  | 0x22 => return .localTee (← u32)
  | 0x23 => return .globalGet (← u32)
  | 0x24 => return .globalSet (← u32)
  | 0x25 => return .tableGet (← u32)
  | 0x26 => return .tableSet (← u32)
  | 0x3F => return .memorySize (← u32)
  | 0x40 => return .memoryGrow (← u32)
  | 0x41 => return .const .i32 (UInt32.ofInt (← signed 32)).toUInt64
  | 0x42 => return .const .i64 (UInt64.ofInt (← signed 64))
  | 0x43 => return .const .f32 (← littleEndian 4).toUInt64
  | 0x44 => return .const .f64 (← littleEndian 8).toUInt64
  | 0xD0 => return .refNull (← heapType)
  | 0xD1 => return .refIsNull
  | 0xD2 => return .refFunc (← u32)
  | 0xFC => bulk
  | _ =>
    if op ≥ 0x45 then
      match computing[op.toNat - 0x45]? with
      | some i => return i
      | none => fail .unsupported
    else
      match loads[op.toNat - 0x28]?, stores[op.toNat - 0x36]? with
      | some access, _ =>
        require (op ≥ 0x28) .unsupported
        return .load access (← place)
      | none, some access => return .store access (← place)
      | none, none => fail .unsupported

/-- Instructions up to the end of the bytes. -/
def instrsToEnd (done : Array Instr) : Nat → Reader (Array Instr)
  | 0 => fail .truncated
  | fuel + 1 => do
    if ← atEnd then return done
    instrsToEnd (done.push (← instr)) fuel

/-- Instructions up to the end mark that closes them, which is left out. An expression has no blocks,
so the first end mark closes it. -/
def instrsToMark (done : Array Instr) : Nat → Reader (Array Instr)
  | 0 => fail .truncated
  | fuel + 1 => do
    match ← instr with
    | .endMark => return done
    | i => instrsToMark (done.push i) fuel

/-- Reads with as much fuel as there are bytes; every instruction takes one at least. -/
def fuelled {α : Type} (read : Nat → Reader α) : Reader α := fun bytes =>
  read (bytes.length + 1) bytes

/-- A constant expression. -/
def expression : Reader (Array Instr) := fuelled (instrsToMark #[])

/-! ## Sections -/

def maxItems : Nat := 1000000
def maxSegments : Nat := 100000

def importItem : Reader Import := do
  let space ← name
  let name ← name
  match ← byte with
  | 0 => return ⟨space, name, .function (← u32)⟩
  | 1 => return ⟨space, name, .table (← tableType)⟩
  | 2 => return ⟨space, name, .memory (← memoryType)⟩
  | 3 => return ⟨space, name, .global (← globalType)⟩
  | _ => fail .unsupported

def globalItem : Reader Global := do
  let type ← globalType
  return ⟨type, ← expression⟩

def exportItem : Reader Export := do
  let name ← name
  match ← byte with
  | 0 => return ⟨name, .function (← u32)⟩
  | 1 => return ⟨name, .table (← u32)⟩
  | 2 => return ⟨name, .memory (← u32)⟩
  | 3 => return ⟨name, .global (← u32)⟩
  | _ => fail .unsupported

/-- An element segment. Three flags say whether it is active, whether it names its table (or is
declared), and whether its items are expressions. -/
def elementItem : Reader ElementSegment := do
  let flags ← u32
  require (flags < 8) .malformed
  let plain := flags % 2 == 0
  let explicit := flags / 2 % 2 == 1
  let byExpression := flags / 4 == 1
  let mode ←
    if plain then
      let table ← if explicit then u32 else pure 0
      pure (SegmentMode.active table (← expression))
    else pure (if explicit then SegmentMode.declared else SegmentMode.passive)
  let type ←
    if plain && !explicit then pure ValueType.function
    else if byExpression then referenceType
    else
      require ((← byte) == 0) .unsupported
      pure ValueType.function
  let items ←
    if byExpression then counted (Nat.pow 2 32) expression
    else counted (Nat.pow 2 32) (do return #[Instr.refFunc (← u32)])
  return ⟨type, items.toList, mode⟩

def dataItem : Reader DataSegment := do
  let mode ← match ← u32 with
    | 0 => pure (SegmentMode.active 0 (← expression))
    | 1 => pure SegmentMode.passive
    | 2 => do
      let memory ← u32
      pure (SegmentMode.active memory (← expression))
    | _ => fail .malformed
  return ⟨← take (← u32), mode⟩

def maxBodyBytes : Nat := 7654321

def bodyItem : Reader Body := do
  let size ← u32
  require (size ≤ maxBodyBytes) .tooLarge
  within size do
    let locals ← counted (Nat.pow 2 32) do return (← u32, ← valueType)
    return ⟨locals.toList, ← fuelled (instrsToEnd #[])⟩

/-- The place of each section in the order that sections have. -/
def sectionRank (id : UInt8) : Option Nat :=
  match id with
  | 1 => some 1
  | 2 => some 2
  | 3 => some 3
  | 4 => some 4
  | 5 => some 5
  | 6 => some 6
  | 7 => some 7
  | 8 => some 8
  | 9 => some 9
  | 12 => some 10
  | 10 => some 11
  | 11 => some 12
  | _ => none

/-- Adds what the section `id` holds to the module. -/
def sectionBody (m : Module) (id : UInt8) : Reader Module := do
  match id with
  | 1 => return { m with types := ← counted maxItems funcType }
  | 2 => return { m with imports := ← counted maxItems importItem }
  | 3 => return { m with functions := ← counted maxItems u32 }
  | 4 => return { m with tables := ← counted 100 tableType }
  | 5 => return { m with memories := ← counted 100 memoryType }
  | 6 => return { m with globals := ← counted maxItems globalItem }
  | 7 => return { m with exports := ← counted maxItems exportItem }
  | 8 => return { m with start := some (← u32) }
  | 9 => return { m with elements := ← counted maxSegments elementItem }
  | 12 => return { m with dataCount := some (← u32) }
  | 10 => return { m with bodies := ← counted maxItems bodyItem }
  | 11 => return { m with data := ← counted maxSegments dataItem }
  | _ => fail .malformed

/-- The sections that follow, the last one having had the rank `rank`. -/
def sections (m : Module) (rank : Nat) : Nat → Reader Module
  | 0 => fail .truncated
  | fuel + 1 => do
    if ← atEnd then return m
    let id ← byte
    let size ← u32
    if id == 0 then
      within size do
        let _ ← name
        skip
      sections m rank fuel
    else
      match sectionRank id with
      | none => fail .malformed
      | some r =>
        require (rank < r) .misplaced
        sections (← within size (sectionBody m id)) r fuel

/-- The eight bytes every module begins with. -/
def header : List UInt8 := [0x00, 0x61, 0x73, 0x6D, 0x01, 0x00, 0x00, 0x00]

end Decode

/-- The module that the bytes spell out. -/
def Module.decode (bytes : List UInt8) : Except Defect Module :=
  whole
    (do
      require ((← take 8) == Decode.header) .malformed
      Decode.fuelled (Decode.sections Module.empty 0))
    bytes

end Playground.Wasm
