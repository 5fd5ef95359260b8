import Playground.Proofs.Wasm.Sizes

/-!
# How large a memory may be

Two bounds hold a memory down: the one that its type declares and the cap of the sandbox. This file
says what they admit, when the memory is created and whenever it grows:

* `Admits` — a number of pages that neither bound forbids.
* `MemoryType.Fits` — a type whose own sizes are in order; valid modules have no others, see
  `fits_of_validate`.
* `createMemory_of_admits`, `createMemory_of_not_admits` — a memory is created with one page at
  least, if that is admitted, and refused for a reason that is told otherwise.
* `Memory.Shape.Within` — what holds of the size of a memory from its creation on.
* `grow_of_admits`, `grow_of_not_admits` — growing gives exactly what is admitted.
-/

set_option autoImplicit false

namespace Playground.Wasm

/-- Neither the type nor the cap forbids a number of pages. -/
structure Admits (t : MemoryType) (cap : Option Nat) (pages : Nat) : Prop where
  capped : ∀ most, cap = some most → pages ≤ most
  declared : ∀ most, t.size.max = some most → pages ≤ most

namespace MemoryType

/-- The least size is at most the greatest, and addresses reach both. -/
structure Fits (t : MemoryType) : Prop where
  reached : t.size.min ≤ Module.maxPages t.address
  ordered : ∀ most, t.size.max = some most →
    t.size.min ≤ most ∧ most ≤ Module.maxPages t.address

/-- The number of pages that a program starts with. -/
def firstPages (t : MemoryType) : Nat := max t.size.min 1

theorem firstPages_of_zero {t : MemoryType} (h : t.size.min = 0) : t.firstPages = 1 := by
  rw [firstPages, h]
  rfl

theorem firstPages_of_ne_zero {t : MemoryType} (h : t.size.min ≠ 0) :
    t.firstPages = t.size.min :=
  Nat.max_eq_left (Nat.pos_of_ne_zero h)

/-- Why a memory of the type is refused when its first pages are not admitted. A memory without pages
is there already when it is refused the page that it has to have. -/
def refusal (t : MemoryType) : LinkError :=
  if t.size.min = 0 then .pageRefused (if t.size.max = some 0 then .bounds else .cap)
  else .memoryRefused .cap

end MemoryType

namespace Memory

variable {t : MemoryType} {cap : Option Nat}

theorem granted_iff {pages : Nat} :
    granted cap pages = true ↔ ∀ most, cap = some most → pages ≤ most := by
  cases cap with
  | none => exact ⟨fun _ _ h => (nomatch h), fun _ => rfl⟩
  | some most =>
    rw [granted, decide_eq_true_iff]
    exact ⟨fun h _ heq => Option.some.inj heq ▸ h, fun h => h most rfl⟩

theorem typeBound_of_max {most : Nat} (h : t.size.max = some most) : typeBound t = most := by
  rw [typeBound, h]

theorem typeBound_of_no_max (h : t.size.max = none) : typeBound t = Module.maxPages t.address := by
  rw [typeBound, h]
  cases t.address with
  | w32 => rfl
  | w64 => rfl

/-- The bound of a type is the declared one, or that of its addresses. -/
theorem le_typeBound_iff {pages : Nat} : pages ≤ typeBound t ↔
    (∀ most, t.size.max = some most → pages ≤ most) ∧
      (t.size.max = none → pages ≤ Module.maxPages t.address) := by
  cases h : t.size.max with
  | none =>
    rw [typeBound_of_no_max h]
    exact ⟨fun hle => ⟨nofun, fun _ => hle⟩, fun hle => hle.2 rfl⟩
  | some most =>
    rw [typeBound_of_max h]
    exact ⟨fun hle => ⟨fun _ heq => Option.some.inj heq ▸ hle, nofun⟩, fun hle => hle.1 most rfl⟩

theorem pages_mul (n : Nat) : n * pageSize / pageSize = n := Nat.mul_div_cancel n (by decide)

/-- The number of pages of a memory that is made up of `n` pages. -/
theorem pages_mk (held : Array ByteArray) (n maxPages : Nat) (cap : Option Nat) :
    pages ⟨held, n * pageSize, maxPages, cap⟩ = n := pages_mul n

/-- The memory with another number of pages. -/
def withPages (m : Memory) (n : Nat) : Memory := { m with size := n * pageSize }

@[simp] theorem pages_withPages (m : Memory) (n : Nat) : (m.withPages n).pages = n := pages_mul n

/-! ## Creating -/

theorem one_le_maxPages (w : Width) : 1 ≤ Module.maxPages w := by
  cases w with
  | w32 => exact Nat.one_le_two_pow
  | w64 => exact Nat.one_le_two_pow

/-- What is admitted of the first pages is below the bound of the type. -/
theorem firstPages_le_typeBound (ht : t.Fits) (h : Admits t cap t.firstPages) :
    t.firstPages ≤ typeBound t :=
  le_typeBound_iff.mpr
    ⟨h.declared, fun _ => Nat.max_le.mpr ⟨ht.reached, one_le_maxPages t.address⟩⟩

/-- The least size is admitted if the first pages are, as these are no fewer. -/
theorem granted_min (h : Admits t cap t.firstPages) : granted cap t.size.min = true :=
  granted_iff.mpr fun most hcap => Nat.le_trans (Nat.le_max_left _ _) (h.capped most hcap)

/-- **If the first pages are admitted, the memory is created with exactly these.** -/
theorem createMemory_of_admits (ht : t.Fits) (h : Admits t cap t.firstPages) :
    createMemory t cap = .ok ⟨#[], t.firstPages * pageSize, typeBound t, cap⟩ := by
  have hbound := firstPages_le_typeBound ht h
  have hgranted : granted cap t.firstPages = true := granted_iff.mpr h.capped
  rw [createMemory, new?, if_pos (granted_min h)]
  dsimp only
  rw [pages_mk]
  by_cases hmin : t.size.min = 0
  · have hfirst := MemoryType.firstPages_of_zero hmin
    rw [hfirst] at hbound hgranted
    simp only [hmin, if_pos, grow?, pages, Nat.zero_mul, Nat.zero_div, Nat.zero_add, hfirst,
      Nat.not_lt.mpr hbound, hgranted, Nat.one_ne_zero, if_false]
    rfl
  · rw [if_neg hmin, MemoryType.firstPages_of_ne_zero hmin]

/-- **If they are not, it is refused.** -/
theorem createMemory_of_not_admits (ht : t.Fits) (h : ¬ Admits t cap t.firstPages) :
    createMemory t cap = .error t.refusal := by
  rw [createMemory, MemoryType.refusal]
  by_cases hmin : t.size.min = 0
  · have hzero : granted cap 0 = true := granted_iff.mpr fun most _ => Nat.zero_le most
    rw [MemoryType.firstPages_of_zero hmin] at h
    simp only [new?, hmin, hzero, if_pos, grow?, pages, Nat.zero_mul, Nat.zero_div, Nat.zero_add,
      Nat.one_ne_zero, if_false]
    by_cases hmax : t.size.max = some 0
    · rw [if_pos (by rw [typeBound_of_max hmax]; exact Nat.one_pos), if_pos hmax]
      rfl
    · -- one page is within the type, so it is the cap that forbids it
      have hdeclared : ∀ most, t.size.max = some most → 1 ≤ most := fun most hmost =>
        Nat.one_le_iff_ne_zero.mpr fun hzero => hmax (hzero ▸ hmost)
      have hbound : 1 ≤ typeBound t :=
        le_typeBound_iff.mpr ⟨hdeclared, fun _ => one_le_maxPages t.address⟩
      have hcap : ¬ granted cap 1 = true := fun hone => h ⟨granted_iff.mp hone, hdeclared⟩
      rw [if_neg (Nat.not_lt.mpr hbound), if_neg hcap, if_neg hmax]
      rfl
  · have hcap : ¬ granted cap t.size.min = true := by
      rw [MemoryType.firstPages_of_ne_zero hmin] at h
      exact fun hmin => h ⟨granted_iff.mp hmin, fun most hmost => (ht.ordered most hmost).1⟩
    rw [new?, if_neg hcap, if_neg hmin]

/-- A memory of no pages is there under a cap of zero, but its first page is not. -/
example : createMemory ⟨.w32, ⟨0, none⟩⟩ (some 0) = .error (.pageRefused .cap) := rfl

/-! ## Growing -/

/-- The shape of a memory of a type under a cap that has had `least` pages. -/
structure Shape.Within (t : MemoryType) (cap : Option Nat) (least : Nat) (s : Shape) : Prop where
  bound : s.maxPages = typeBound t
  limit : s.cap = cap
  /-- There are whole pages only. -/
  whole : s.size = s.size / pageSize * pageSize
  grown : least ≤ s.size / pageSize
  reached : s.size / pageSize ≤ typeBound t
  admitted : Admits t cap (s.size / pageSize)

theorem within_of_created (ht : t.Fits) (h : Admits t cap t.firstPages) :
    (shape ⟨#[], t.firstPages * pageSize, typeBound t, cap⟩).Within t cap t.firstPages where
  bound := rfl
  limit := rfl
  whole := by rw [shape, pages_mul]
  grown := Nat.le_of_eq (pages_mul t.firstPages).symm
  reached := by rw [shape, pages_mul]; exact firstPages_le_typeBound ht h
  admitted := by rw [shape, pages_mul]; exact h

variable {memory : Memory} {least : Nat}

/-- **What is admitted, and what the type's addresses reach, is given.** -/
theorem grow_of_admits (hm : memory.shape.Within t cap least) {delta : Nat}
    (hreach : memory.pages + delta ≤ typeBound t) (h : Admits t cap (memory.pages + delta)) :
    memory.grow? delta = .ok (memory.withPages (memory.pages + delta)) := by
  have hbound : ¬ memory.maxPages < memory.pages + delta := by
    rw [show memory.maxPages = typeBound t from hm.bound]
    exact Nat.not_lt.mpr hreach
  have hgranted : granted memory.cap (memory.pages + delta) = true := by
    rw [show memory.cap = cap from hm.limit]
    exact granted_iff.mpr h.capped
  rw [grow?]
  by_cases hdelta : delta = 0
  · have hsize : memory.pages * pageSize = memory.size := hm.whole.symm
    rw [if_pos hdelta, hdelta, Nat.add_zero, withPages, hsize]
  · rw [if_neg hdelta, if_neg hbound, if_pos hgranted]
    rfl

/-- **Nothing else is.** -/
theorem grow_of_not_admits (hm : memory.shape.Within t cap least) {delta : Nat}
    (h : ¬ (memory.pages + delta ≤ typeBound t ∧ Admits t cap (memory.pages + delta))) :
    ∃ r, memory.grow? delta = .error r := by
  rw [grow?]
  by_cases hdelta : delta = 0
  · -- the present size is admitted
    rw [hdelta, Nat.add_zero] at h
    exact absurd ⟨hm.reached, hm.admitted⟩ h
  · rw [if_neg hdelta]
    split
    · exact ⟨_, rfl⟩
    · rename_i hbound
      rw [show memory.maxPages = typeBound t from hm.bound, Nat.not_lt] at hbound
      split
      · rename_i hgranted
        rw [show memory.cap = cap from hm.limit, granted_iff] at hgranted
        exact absurd ⟨hbound, hgranted, (le_typeBound_iff.mp hbound).1⟩ h
      · exact ⟨_, rfl⟩

theorem within_of_grow (hm : memory.shape.Within t cap least) {delta : Nat} {grown : Memory}
    (h : memory.grow? delta = .ok grown) : grown.shape.Within t cap least := by
  by_cases hadmits : memory.pages + delta ≤ typeBound t ∧ Admits t cap (memory.pages + delta)
  · rw [grow_of_admits hm hadmits.1 hadmits.2] at h
    cases h
    have hpages : (memory.pages + delta) * pageSize / pageSize = memory.pages + delta :=
      pages_mul _
    exact {
      bound := hm.bound
      limit := hm.limit
      whole := by rw [shape, withPages, hpages]
      grown := by rw [shape, withPages, hpages]; exact Nat.le_trans hm.grown (Nat.le_add_right _ _)
      reached := by rw [shape, withPages, hpages]; exact hadmits.1
      admitted := by rw [shape, withPages, hpages]; exact hadmits.2 }
  · obtain ⟨r, hr⟩ := grow_of_not_admits hm hadmits
    rw [hr] at h
    cases h

end Memory

end Playground.Wasm
