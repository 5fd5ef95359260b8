import Playground.Proofs.Wasm.Sizes

/-!
# The memory that print requests read

A print request reads the first memory of the store. This file says that it is always there:

* `HasMemories` — a step leads to a store with a number of memories, and a print request reads the
  first of them.
* `step_hasMemories` — no instruction changes the number of memories.
* `attached_of_instantiate` — a module that was made ready has the memory that it asked for.
* `request_of_attached` — with that memory, asking to print is a request for a range of it.
-/

set_option autoImplicit false

namespace Playground.Wasm

/-- The store that a step leads to has `n` memories, and what is printed is read from the first. -/
def Progress.HasMemories (n : Nat) : Progress Machine → Prop
  | .running next => next.store.memories.size = n
  | .printing memory _ _ next =>
    next.store.memories.size = n ∧ next.store.memories[0]? = some memory
  | .finished store => store.memories.size = n
  | .trapped _ => True

/-- The first memory is there. -/
def Store.Attached (s : Store) : Prop := 0 < s.memories.size

theorem Store.Attached.first {s : Store} (h : s.Attached) :
    ∃ memory, s.memories[0]? = some memory :=
  ⟨s.memories[0], Array.getElem?_eq_getElem h⟩

theorem Store.Attached.of_size {s s' : Store} (h : s.Attached)
    (hsize : s'.memories.size = s.memories.size) : s'.Attached :=
  Nat.lt_of_lt_of_eq h hsize.symm

theorem Store.size_shapes (s : Store) : s.shapes.size = s.memories.size := Array.size_map

/-- Where the shapes are kept, the number of memories is. -/
theorem Progress.Keeps.hasMemories {s : Store} {progress : Progress Machine}
    (h : progress.Keeps s) : progress.HasMemories s.memories.size := by
  have hsize : ∀ s' : Store, s'.shapes = s.shapes → s'.memories.size = s.memories.size := by
    intro s' heq
    rw [← s'.size_shapes, heq, s.size_shapes]
  cases progress with
  | running next => exact hsize _ h
  | printing memory offset length next => exact ⟨hsize _ h.1, h.2⟩
  | finished store => exact hsize _ h
  | trapped t => trivial

namespace Machine

open Progress

variable {p : Program} {m : Machine}

/-- **No instruction changes the number of memories.** -/
theorem step_hasMemories (p : Program) (m : Machine) :
    (m.step p).HasMemories m.store.memories.size := by
  by_cases hx : ∃ x, m.current = some (.memoryGrow x)
  · obtain ⟨x, hx⟩ := hx
    rw [step_eq_grow m hx, grow]
    dsimp only
    split
    · trivial
    · split
      · rfl
      · exact Array.size_modify
  · exact (step_keeps m fun x h => hx ⟨x, h⟩).hasMemories

theorem step_attached (h : m.store.Attached) : (m.step p).Holds Store.Attached := by
  have hsize := m.step_hasMemories p
  cases hstep : m.step p with
  | running next => rw [hstep] at hsize; exact h.of_size hsize
  | printing memory offset length next => rw [hstep] at hsize; exact h.of_size hsize.1
  | finished store => rw [hstep] at hsize; exact h.of_size hsize
  | trapped t => trivial

/-- Asking to print is a request for a range of the first memory. -/
theorem request_of_attached (h : m.store.Attached) (stack : List Cell) (pc : Nat) :
    ∃ memory offset length next, m.store.memories[0]? = some memory ∧
      m.request stack pc = .printing memory offset length next := by
  obtain ⟨memory, hfirst⟩ := h.first
  refine ⟨memory, ?_⟩
  simp [request, hfirst]

end Machine

/-! ## Modules that were made ready -/

theorem attached_of_shapes {s : Store} {shape : Memory.Shape} (h : s.shapes[0]? = some shape) :
    s.Attached := by
  obtain ⟨memory, hmemory, -⟩ := Store.memory_of_shapes h
  exact (Array.getElem?_eq_some_iff.mp hmemory).1

/-- **A module that was made ready has a memory to print from.** -/
theorem attached_of_instantiate {m : Module} {c : Context} {o : Offer} {cap : Option Nat}
    {i : Instance} (h : instantiate m c o cap = .ok i) : i.store.Attached := by
  obtain ⟨wanted, -, h⟩ := ok_of_bind h
  obtain ⟨memory, -, h⟩ := ok_of_bind h
  obtain ⟨⟨⟩, -, h⟩ := ok_of_bind h
  obtain ⟨⟨⟩, -, h⟩ := ok_of_bind h
  exact attached_of_shapes (Instance.shapes_build h)

end Playground.Wasm
