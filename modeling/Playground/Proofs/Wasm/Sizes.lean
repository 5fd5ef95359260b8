import Playground.Wasm.Instance
import Playground.Proofs.Wasm.Checks

/-!
# The sizes of memories

Instructions write to memories, and one of them makes a memory larger. This file says which is
which:

* `Memory.Shape` — the size of a memory and its two bounds: all but the contents.
* `Progress.Keeps` — a step leaves the shapes of all memories as they are, and a print request reads
  the first of them.
* `step_keeps` — every instruction but growing does.
* `step_grow`, `step_grow_of_error` — growing gives one memory its new size, or is refused and
  changes nothing in the store.
* `step_hasShape` — what growing keeps of the shape of a memory, every step keeps.
* `shapes_build` — segments that are put into place leave shapes as they are.
-/

set_option autoImplicit false

namespace Playground.Wasm

namespace Memory

/-- All of a memory but its contents. -/
structure Shape where
  size : Nat
  maxPages : Nat
  cap : Option Nat
  deriving DecidableEq, Repr

def shape (m : Memory) : Shape := ⟨m.size, m.maxPages, m.cap⟩

variable (m : Memory)

@[simp] theorem shape_setByte (address : Nat) (b : UInt8) : (m.setByte address b).shape = m.shape :=
  rfl

@[simp] theorem shape_putNumber (n : Nat) : ∀ (m : Memory) (address : Nat) (x : UInt64),
    (m.putNumber address x n).shape = m.shape := by
  induction n with
  | zero => intro m address x; rfl
  | succ n ih =>
    intro m address x
    rw [putNumber, ih, shape_setByte]

@[simp] theorem shape_putBytes (bytes : List UInt8) : ∀ (m : Memory) (address : Nat),
    (m.putBytes address bytes).shape = m.shape := by
  induction bytes with
  | nil => intro m address; rfl
  | cons b rest ih =>
    intro m address
    rw [putBytes, ih, shape_setByte]

end Memory

namespace Store

/-- The shapes of the memories of a store, in order. -/
def shapes (s : Store) : Array Memory.Shape := s.memories.map Memory.shape

/-- There is a memory at place `j`, and its shape is as `P` wants it. -/
def HasShape (j : Nat) (P : Memory.Shape → Prop) (s : Store) : Prop :=
  ∃ shape, s.shapes[j]? = some shape ∧ P shape

theorem shapes_getElem? {s : Store} {j : Nat} {memory : Memory}
    (h : s.memories[j]? = some memory) : s.shapes[j]? = some memory.shape := by
  rw [shapes, Array.getElem?_map, h, Option.map_some]

theorem memory_of_shapes {s : Store} {j : Nat} {shape : Memory.Shape}
    (h : s.shapes[j]? = some shape) :
    ∃ memory, s.memories[j]? = some memory ∧ memory.shape = shape := by
  rw [shapes, Array.getElem?_map] at h
  exact Option.map_eq_some_iff.mp h

theorem HasShape.of_eq {s s' : Store} {j : Nat} {P : Memory.Shape → Prop} (h : s.HasShape j P)
    (heq : s'.shapes = s.shapes) : s'.HasShape j P := by
  rw [HasShape, heq]
  exact h

end Store

/-- A step leads to a store whose memories have the shapes of those of `s`, and what it prints is read
from the first one. -/
def Progress.Keeps (s : Store) : Progress Machine → Prop
  | .running next => next.store.shapes = s.shapes
  | .printing memory _ _ next =>
    next.store.shapes = s.shapes ∧ next.store.memories[0]? = some memory
  | .finished store => store.shapes = s.shapes
  | .trapped _ => True

/-- The store that a step leads to is as `I` wants it. -/
def Progress.Holds (I : Store → Prop) : Progress Machine → Prop
  | .running next => I next.store
  | .printing _ _ _ next => I next.store
  | .finished store => I store
  | .trapped _ => True

theorem Progress.Keeps.holds {s : Store} {I : Store → Prop} {progress : Progress Machine}
    (h : progress.Keeps s) (hI : ∀ s', s'.shapes = s.shapes → I s') : progress.Holds I := by
  cases progress with
  | running next => exact hI _ h
  | printing memory offset length next => exact hI _ h.1
  | finished store => exact hI _ h
  | trapped t => trivial

namespace Machine

open Progress

variable {p : Program} (m : Machine)

theorem shapes_changeMemory (s : Store) (i : Nat) {f : Memory → Memory}
    (hf : ∀ memory, (f memory).shape = memory.shape) : (changeMemory s i f).shapes = s.shapes := by
  refine Array.ext_getElem? fun j => ?_
  rw [Store.shapes, Store.shapes, changeMemory, Array.getElem?_map, Array.getElem?_map,
    Array.getElem?_modify]
  split
  · cases s.memories[j]? with
    | none => rfl
    | some memory => exact congrArg some (hf memory)
  · rfl

/-! ## Single operations -/

theorem keeps_leave : m.leave.Keeps m.store := by
  unfold leave
  split
  split
  · rfl
  · rfl

theorem keeps_branch (label : Nat) : (m.branch label).Keeps m.store := by
  unfold branch
  split
  · exact keeps_leave m
  · rfl

theorem keeps_close (pc : Nat) : (m.close pc).Keeps m.store := by
  unfold close
  split
  · exact keeps_leave m
  · rfl

theorem keeps_choose (type : BlockType) : (m.choose p type).Keeps m.store := by
  unfold choose
  dsimp only
  split
  · rfl
  · split
    · rfl
    · rfl

theorem keeps_request (stack : List Cell) (pc : Nat) : (m.request stack pc).Keeps m.store := by
  unfold request
  dsimp only
  split
  · trivial
  · rename_i hfirst
    exact ⟨rfl, hfirst⟩

theorem keeps_call (f : Function) (stack : List Cell) : (m.call f stack).Keeps m.store := by
  unfold call
  split
  · exact keeps_request m _ _
  · split
    · trivial
    · rfl

theorem keeps_tailCall (f : Function) (stack : List Cell) :
    (m.tailCall f stack).Keeps m.store := by
  unfold tailCall
  split
  · exact keeps_request m _ _
  · rfl

theorem keeps_loadValue (access : Access) (place : Place) :
    (m.loadValue p access place).Keeps m.store := by
  unfold loadValue
  dsimp only
  split
  · trivial
  · split
    · trivial
    · rfl

theorem keeps_storeValue (access : Access) (place : Place) :
    (m.storeValue p access place).Keeps m.store := by
  unfold storeValue
  dsimp only
  split
  · exact shapes_changeMemory _ _ fun memory => memory.shape_putNumber _ _ _
  · trivial

theorem keeps_putBytes (stack : List Cell) (i start : Nat) (bytes : List UInt8) :
    (m.putBytes stack i start bytes).Keeps m.store := by
  unfold putBytes
  split
  · exact shapes_changeMemory _ _ fun memory => memory.shape_putBytes _ _
  · trivial

theorem keeps_memoryInit (segment index : Nat) : (m.memoryInit p segment index).Keeps m.store := by
  unfold memoryInit
  dsimp only
  split
  · exact keeps_putBytes m _ _ _ _
  · trivial

theorem keeps_memoryCopy (target source : Nat) : (m.memoryCopy p target source).Keeps m.store := by
  unfold memoryCopy
  dsimp only
  split
  · trivial
  · split
    · split
      · trivial
      · exact keeps_putBytes m _ _ _ _
    · trivial

theorem keeps_memoryFill (index : Nat) : (m.memoryFill p index).Keeps m.store := by
  unfold memoryFill
  dsimp only
  split
  · exact keeps_putBytes m _ _ _ _
  · trivial

theorem keeps_tableGet (table : Nat) : (m.tableGet table).Keeps m.store := by
  unfold tableGet
  dsimp only
  split
  · trivial
  · rfl

theorem keeps_tableSet (table : Nat) : (m.tableSet table).Keeps m.store := by
  unfold tableSet
  dsimp only
  split
  · rfl
  · trivial

theorem keeps_tableInit (segment table : Nat) : (m.tableInit segment table).Keeps m.store := by
  unfold tableInit
  dsimp only
  split
  · rfl
  · trivial

theorem keeps_tableCopy (target source : Nat) : (m.tableCopy target source).Keeps m.store := by
  unfold tableCopy
  dsimp only
  split
  · rfl
  · trivial

theorem keeps_tableGrow (table : Nat) : (m.tableGrow p table).Keeps m.store := by
  unfold tableGrow
  dsimp only
  split
  · trivial
  · split
    · rfl
    · rfl

theorem keeps_tableFill (table : Nat) : (m.tableFill table).Keeps m.store := by
  unfold tableFill
  dsimp only
  split
  · rfl
  · trivial

/-! ## Instructions -/

/-- The instruction that is next, if the function does not end here. -/
def current (m : Machine) : Option Instr := m.frame.code.instrs[m.frame.pc]?

/-- **Only growing changes the size of a memory.** -/
theorem step_keeps (hgrow : ∀ x, m.current ≠ some (.memoryGrow x)) :
    (m.step p).Keeps m.store := by
  unfold step
  split
  · exact keeps_leave m
  · rename_i i hi
    cases i with
    | memoryGrow x => exact absurd hi (hgrow x)
    | unreachable => trivial
    | ifThen t => exact keeps_choose m t
    | elseMark => exact keeps_close m _
    | endMark => exact keeps_close m _
    | br label => exact keeps_branch m label
    | brIf label =>
      dsimp only
      split
      · rfl
      · exact keeps_branch { m with frame := _ } label
    | brTable labels default => exact keeps_branch { m with frame := _ } _
    | ret => exact keeps_leave m
    | call f =>
      dsimp only
      split
      · trivial
      · exact keeps_call m _ _
    | callIndirect type table =>
      dsimp only
      split
      · trivial
      · exact keeps_call m _ _
    | tailCall f =>
      dsimp only
      split
      · trivial
      · exact keeps_tailCall m _ _
    | tailCallIndirect type table =>
      dsimp only
      split
      · trivial
      · exact keeps_tailCall m _ _
    | unary op =>
      dsimp only
      split
      · rfl
      · trivial
    | binary op =>
      dsimp only
      split
      · rfl
      · trivial
    | load access place => exact keeps_loadValue m access place
    | store access place => exact keeps_storeValue m access place
    | memoryInit segment x => exact keeps_memoryInit m segment x
    | memoryCopy target source => exact keeps_memoryCopy m target source
    | memoryFill x => exact keeps_memoryFill m x
    | tableGet x => exact keeps_tableGet m x
    | tableSet x => exact keeps_tableSet m x
    | tableInit segment x => exact keeps_tableInit m segment x
    | tableCopy target source => exact keeps_tableCopy m target source
    | tableGrow x => exact keeps_tableGrow m x
    | tableFill x => exact keeps_tableFill m x
    -- the others go on behind the instruction and touch no memory
    | _ => rfl

theorem step_eq_grow {x : Nat} (hx : m.current = some (.memoryGrow x)) : m.step p = m.grow p x := by
  rw [step]
  rw [current] at hx
  rw [hx]

section

variable {x i : Nat} {w : Width} (hx : m.current = some (.memoryGrow x))
  (hplace : memoryAt p x = (i, w))

include hx hplace

theorem step_grow_of_none (hmemory : m.store.memories[i]? = none) :
    m.step p = .trapped .memoryBounds := by
  rw [step_eq_grow m hx]
  simp only [grow, hplace, hmemory]

variable {delta : Cell} {rest : List Cell} {memory : Memory}
  (hstack : popCell m.frame.stack = (delta, rest)) (hmemory : m.store.memories[i]? = some memory)

include hstack hmemory

/-- A memory that grows takes the place of the old one, and the program is told the old size. -/
theorem step_grow {grown : Memory} (hgrown : memory.grow? delta.toNat = .ok grown) :
    m.step p = m.nextStore (cellOf w memory.pages :: rest)
      (changeMemory m.store i fun _ => grown) := by
  rw [step_eq_grow m hx]
  simp only [grow, hplace, hstack, hmemory, hgrown]

/-- A memory that does not grow stays, and so does all else in the store. -/
theorem step_grow_of_error {r : Memory.Refusal}
    (hr : memory.grow? delta.toNat = .error r) : m.step p = m.next (failure w :: rest) := by
  rw [step_eq_grow m hx]
  simp only [grow, hplace, hstack, hmemory, hr]

end

/-- Replacing one memory replaces one shape. -/
theorem hasShape_changeMemory {s : Store} {i j : Nat} {P : Memory.Shape → Prop} {new : Memory}
    (hj : s.HasShape j P) (hnew : i = j → P new.shape) :
    (changeMemory s i fun _ => new).HasShape j P := by
  obtain ⟨shape, hshape, hP⟩ := hj
  obtain ⟨memory, hmemory, -⟩ := Store.memory_of_shapes hshape
  have hget : (changeMemory s i fun _ => new).memories[j]? =
      some (if i = j then new else memory) := by
    rw [changeMemory, Array.getElem?_modify, hmemory]
    split
    · rfl
    · rfl
  refine ⟨_, Store.shapes_getElem? hget, ?_⟩
  split
  · rename_i hij
    exact hnew hij
  · rename_i hij
    rw [Store.shapes_getElem? hmemory] at hshape
    cases hshape
    exact hP

/-- **What growing keeps of the shape of a memory, every step keeps.** -/
theorem step_hasShape {P : Memory.Shape → Prop} {j : Nat}
    (hgrow : ∀ memory delta grown, P memory.shape → Memory.grow? memory delta = .ok grown →
      P grown.shape)
    (h : m.store.HasShape j P) : (m.step p).Holds (Store.HasShape j P) := by
  by_cases hx : ∃ x, m.current = some (.memoryGrow x)
  · obtain ⟨x, hx⟩ := hx
    obtain ⟨i, w, hplace⟩ : ∃ i w, memoryAt p x = (i, w) := ⟨_, _, rfl⟩
    obtain ⟨delta, rest, hstack⟩ : ∃ delta rest, popCell m.frame.stack = (delta, rest) :=
      ⟨_, _, rfl⟩
    cases hmemory : m.store.memories[i]? with
    | none =>
      rw [step_grow_of_none m hx hplace hmemory]
      trivial
    | some memory =>
      cases hgrown : memory.grow? delta.toNat with
      | error r =>
        rw [step_grow_of_error m hx hplace hstack hmemory hgrown]
        exact h
      | ok grown =>
        rw [step_grow m hx hplace hstack hmemory hgrown]
        refine hasShape_changeMemory h fun hij => ?_
        obtain ⟨shape, hshape, hP⟩ := h
        rw [← hij, Store.shapes_getElem? hmemory] at hshape
        cases hshape
        exact hgrow memory _ grown hP hgrown
  · exact (step_keeps m fun x h => hx ⟨x, h⟩).holds fun s' heq => h.of_eq heq

end Machine

/-! ## Modules that were made ready -/

namespace Instance

theorem shapes_placeElements {s s' : Store} {entry : Nat × ElementSegment}
    (h : placeElements s entry = .ok s') : s'.shapes = s.shapes := by
  unfold placeElements at h
  dsimp only at h
  split at h
  · cases h; rfl
  · cases h; rfl
  · split at h
    · cases h
    · split at h
      · cases h; rfl
      · cases h

theorem shapes_placeData {p : Program} {s s' : Store} {entry : Nat × DataSegment}
    (h : placeData p s entry = .ok s') : s'.shapes = s.shapes := by
  unfold placeData at h
  dsimp only at h
  split at h
  · split at h
    · cases h
    · rename_i memory hmemory
      split at h
      · cases h
      · rename_i written hwritten
        cases h
        -- the written memory has the shape of the one in its place
        have hshape : written.shape = memory.shape := by
          unfold Memory.writeBytes? at hwritten
          split at hwritten
          · cases hwritten
            exact memory.shape_putBytes _ _
          · cases hwritten
        refine Array.ext_getElem? fun j => ?_
        rw [Store.shapes, Store.shapes, Array.getElem?_map, Array.getElem?_map,
          Array.getElem?_setIfInBounds]
        split
        · rename_i hj
          rw [← hj, hmemory]
          split
          · exact congrArg some hshape
          · rename_i hout
            exact absurd (Array.getElem?_eq_some_iff.mp hmemory).1 hout
        · rfl
  · cases h; rfl

variable {m : Module} {c : Context} {memory : Memory} {cap : Option Nat} {i : Instance}

theorem shapes_foldlM {α ε : Type} {f : Store → α → Except ε Store}
    (hstep : ∀ s x s', f s x = .ok s' → s'.shapes = s.shapes) {xs : List α} {s s' : Store}
    (h : xs.foldlM f s = .ok s') : s'.shapes = s.shapes :=
  foldlM_preserves (P := fun b => b.shapes = s.shapes)
    (fun b x b' hb hx => (hstep b x b' hx).trans hb) xs rfl h

/-- The memory that a module is made ready around comes first, in its size. -/
theorem shapes_build (h : build m c memory cap = .ok i) :
    i.store.shapes[0]? = some memory.shape := by
  obtain ⟨own, -, h⟩ := ok_of_bind h
  obtain ⟨placed, hplaced, h⟩ := ok_of_bind h
  obtain ⟨filled, hfilled, h⟩ := ok_of_bind h
  cases h
  rw [shapes_foldlM (fun s x s' => shapes_placeData) hfilled,
    shapes_foldlM (fun s x s' => shapes_placeElements) hplaced, Store.shapes,
    Array.getElem?_map, Array.getElem?_append_left Nat.one_pos]
  rfl

theorem memories_build (h : build m c memory cap = .ok i) :
    i.program.memories = memoryPlaces m := by
  obtain ⟨own, -, h⟩ := ok_of_bind h
  obtain ⟨placed, -, h⟩ := ok_of_bind h
  obtain ⟨filled, -, h⟩ := ok_of_bind h
  cases h
  rfl

/-- All imported memories are the first one. -/
theorem memoryAt_imported (h : build m c memory cap = .ok i) {x : Nat} {t : MemoryType}
    (hx : m.importedMemories[x]? = some t) : Machine.memoryAt i.program x = (0, t.address) := by
  have hlt : x < (m.importedMemories.map fun t => (0, t.address)).size := by
    rw [Array.size_map]
    exact (Array.getElem?_eq_some_iff.mp hx).1
  rw [Machine.memoryAt, memories_build h, memoryPlaces, Array.getElem?_append_left hlt,
    Array.getElem?_map, hx]
  rfl

end Instance

end Playground.Wasm
