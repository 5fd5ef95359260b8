import Mathlib.Algebra.Group.Nat.Defs
import Playground.Proofs.Sandbox.Causes
import Playground.Proofs.Wasm.Linking

/-!
# The pages that a program has

A module says with how many pages its memory starts and to how many it may grow, and the sandbox has
a cap of its own. Together they settle whether the module is run at all and how large its memory is
at any time of the run.

* `Wants` — an artifact is a valid module that imports its memory with a given type.
* `PagesKept` — the first pages, their refusal, and the pages from then on.
* `ofMemory_of_linkCrash` — the crash of a memory that was not created is that of nothing else.
* `firstMemory_within` — what holds of the first memory of all machines that a run goes through.
* `pages_kept` — all of this, for all types and caps.
-/

set_option autoImplicit false

namespace Playground

open Wasm Sandbox

namespace Limits

variable {limits : Limits}

/-- The cap in bytes forbids the sizes that the cap in pages forbids. -/
theorem le_maxMemoryBytes_iff {pages : Nat} :
    (∀ bytes, limits.maxMemoryBytes = some bytes → pages * pageSize ≤ bytes) ↔
      ∀ most, limits.maxMemoryPages = some most → pages ≤ most := by
  have hpos : 0 < pageSize := by decide
  rw [maxMemoryBytes]
  cases limits.maxMemoryPages with
  | none => exact ⟨fun _ => nofun, fun _ => nofun⟩
  | some cap =>
    constructor
    · intro h most hmost
      cases hmost
      exact Nat.le_of_mul_le_mul_right (h _ rfl) hpos
    · intro h bytes hbytes
      cases hbytes
      exact Nat.mul_le_mul_right pageSize (h cap rfl)

/-- A cap of 32 bits is far from the greatest number of 64 bits, even in bytes. -/
theorem maxMemoryBytes_saturating {cap : Nat} (hcap : limits.maxMemoryPages = some cap)
    (hlt : cap < 2 ^ 32) : limits.maxMemoryBytes = some (min (cap * pageSize) (2 ^ 64 - 1)) := by
  have hle : cap * pageSize ≤ 2 ^ 64 - 1 := by
    have hmul : cap * pageSize ≤ 2 ^ 32 * pageSize :=
      Nat.mul_le_mul_right pageSize (Nat.le_of_lt hlt)
    exact Nat.le_trans hmul (by decide)
  rw [maxMemoryBytes, hcap, Option.map_some, Nat.min_eq_left hle]

end Limits

namespace Sandbox

variable (s : Sandbox) (artifact : List UInt8) (m : Module) (c : Context) (t : MemoryType)

/-- The artifact is a valid module that imports its memory with type `t`. -/
structure Wants : Prop where
  decoded : Module.decode artifact = .ok m
  valid : m.validate = .ok c
  wanted : m.wantedMemory ⟨s.space⟩ = .ok t

/-- The type of the memory that the artifact imports, if it is a valid module that does. -/
def memoryType? : Option MemoryType :=
  match Module.decode artifact with
  | .error _ => none
  | .ok m =>
    match m.validate, m.wantedMemory ⟨s.space⟩ with
    | .ok _, .ok t => some t
    | _, _ => none

/-- The machine is about to grow an imported memory, which is `memory` now, by `delta` pages. -/
structure AsksFor (machine : Machine) (own : MemoryType) (memory : Memory) (delta : Cell)
    (rest : List Cell) : Prop where
  grows : ∃ x, m.importedMemories[x]? = some own ∧ machine.current = some (.memoryGrow x)
  stack : popCell machine.frame.stack = (delta, rest)
  present : machine.store.memories[0]? = some memory

/-- What the sizes of a type and the cap of the sandbox do to a run. -/
structure PagesKept : Prop where
  /-- The cap in pages is a cap in bytes, … -/
  bytes : ∀ pages, (∀ bytes, s.limits.maxMemoryBytes = some bytes → pages * pageSize ≤ bytes) ↔
    ∀ most, s.limits.maxMemoryPages = some most → pages ≤ most
  /-- … and as such it is a number of 64 bits. -/
  saturating : ∀ cap, s.limits.maxMemoryPages = some cap → cap < 2 ^ 32 →
    s.limits.maxMemoryBytes = some (min (cap * pageSize) (2 ^ 64 - 1))
  /-- If the first pages are admitted, the memory is created with these, and linking goes on. -/
  created : Admits t s.limits.maxMemoryPages t.firstPages →
    ∃ memory, createMemory t s.limits.maxMemoryPages = .ok memory ∧
      memory.pages = t.firstPages ∧
      s.prepare artifact =
        (linkTo m c ⟨s.space⟩ s.limits.maxMemoryPages t memory).mapError s.linkCrash
  /-- If they are not, nothing is run. -/
  refused : ¬ Admits t s.limits.maxMemoryPages t.firstPages → ∀ console,
    s.execute console artifact = ⟨console, .error (s.linkCrash t.refusal)⟩ ∧
      (s.linkCrash t.refusal).kind = .link
  /-- The crashes of the creation of the memory come from there only. -/
  told : ∀ console, (∃ e : LinkError, e.OfMemory ∧
      (s.execute console artifact).result = .error (s.linkCrash e)) ↔
    ¬ Admits t s.limits.maxMemoryPages t.firstPages
  /-- What the program imports is the first memory of the store. -/
  imported : ∀ i, s.prepare artifact = .ok i → ∀ x own, m.importedMemories[x]? = some own →
    Machine.memoryAt i.program x = (0, own.address)
  /-- The program starts with the first pages. -/
  started : ∀ i, s.prepare artifact = .ok i → ∃ memory, i.store.memories[0]? = some memory ∧
    memory.pages = t.firstPages ∧ memory.size = t.firstPages * pageSize
  /-- It has no fewer at any time, and none that are not admitted. -/
  kept : ∀ i, s.prepare artifact = .ok i → ∀ machine, s.Visits i machine →
    ∃ memory, machine.store.memories[0]? = some memory ∧
      memory.size = memory.pages * pageSize ∧ t.firstPages ≤ memory.pages ∧
      Admits t s.limits.maxMemoryPages memory.pages
  /-- It is given what it asks for if that is admitted and addresses reach it, … -/
  given : ∀ i, s.prepare artifact = .ok i → ∀ machine, s.Visits i machine →
    ∀ own memory delta rest, AsksFor m machine own memory delta rest →
      memory.pages + delta.toNat ≤ Memory.typeBound t →
      Admits t s.limits.maxMemoryPages (memory.pages + delta.toNat) →
      ∃ next grown, machine.step i.program = .running next ∧
        next.store.memories[0]? = some grown ∧ grown.pages = memory.pages + delta.toNat ∧
        next.frame.stack = cellOf own.address memory.pages :: rest
  /-- … and otherwise nothing changes but what the program is told. -/
  denied : ∀ i, s.prepare artifact = .ok i → ∀ machine, s.Visits i machine →
    ∀ own memory delta rest, AsksFor m machine own memory delta rest →
      ¬ (memory.pages + delta.toNat ≤ Memory.typeBound t ∧
        Admits t s.limits.maxMemoryPages (memory.pages + delta.toNat)) →
      ∃ next, machine.step i.program = .running next ∧ next.store = machine.store ∧
        next.frame.stack = failure own.address :: rest

variable {s artifact m c t}

theorem exists_wants_iff :
    (∃ m c, s.Wants artifact m c t) ↔ s.memoryType? artifact = some t := by
  constructor
  · rintro ⟨m, c, h⟩
    rw [memoryType?, h.decoded]
    dsimp only
    rw [h.valid, h.wanted]
  · intro h
    unfold memoryType? at h
    split at h
    · cases h
    · rename_i m hdecoded
      split at h
      · rename_i c t' hvalid hwanted
        cases h
        exact ⟨m, c, hdecoded, hvalid, hwanted⟩
      · cases h

namespace Wants

theorem fits (h : s.Wants artifact m c t) : t.Fits :=
  fits_of_validate h.valid (mem_of_wantedMemory h.wanted)

theorem prepare_eq (h : s.Wants artifact m c t) : s.prepare artifact =
    (createMemory t s.limits.maxMemoryPages >>=
      linkTo m c ⟨s.space⟩ s.limits.maxMemoryPages t).mapError s.linkCrash := by
  rw [prepare, h.decoded, ← instantiate_eq s.limits.maxMemoryPages h.wanted]
  simp only [bind, Except.bind, h.valid]
  rfl

theorem prepare_of_admits (h : s.Wants artifact m c t)
    (ha : Admits t s.limits.maxMemoryPages t.firstPages) : s.prepare artifact =
      (linkTo m c ⟨s.space⟩ s.limits.maxMemoryPages t
        ⟨#[], t.firstPages * pageSize, Memory.typeBound t, s.limits.maxMemoryPages⟩).mapError
          s.linkCrash := by
  rw [h.prepare_eq, Memory.createMemory_of_admits h.fits ha]
  rfl

theorem prepare_of_not_admits (h : s.Wants artifact m c t)
    (ha : ¬ Admits t s.limits.maxMemoryPages t.firstPages) :
    s.prepare artifact = .error (s.linkCrash t.refusal) := by
  rw [h.prepare_eq, Memory.createMemory_of_not_admits h.fits ha]
  rfl

/-- A module that is made ready has first pages that are admitted, and has been put around these. -/
theorem build_of_prepare (h : s.Wants artifact m c t) {i : Instance}
    (hp : s.prepare artifact = .ok i) :
    Admits t s.limits.maxMemoryPages t.firstPages ∧
      Instance.build m c
        ⟨#[], t.firstPages * pageSize, Memory.typeBound t, s.limits.maxMemoryPages⟩
        s.limits.maxMemoryPages = .ok i := by
  by_cases ha : Admits t s.limits.maxMemoryPages t.firstPages
  · refine ⟨ha, ?_⟩
    rw [h.prepare_of_admits ha] at hp
    cases hl : linkTo m c ⟨s.space⟩ s.limits.maxMemoryPages t _ with
    | error e => rw [hl] at hp; cases hp
    | ok i' =>
      rw [hl] at hp
      cases hp
      obtain ⟨_, -, hl⟩ := ok_of_bind hl
      obtain ⟨_, -, hl⟩ := ok_of_bind hl
      exact hl
  · rw [h.prepare_of_not_admits ha] at hp
    cases hp

end Wants

/-! ## The crash of a memory that was not created -/

/-- Two texts that differ before either of them ends are not made equal by what is put behind them. -/
theorem append_ne_of_clash {a b : List Char} (h : (a.zip b).any (fun c => c.1 != c.2) = true)
    (x y : String) : String.ofList a ++ x ≠ String.ofList b ++ y := by
  intro heq
  have hlists := congrArg String.toList heq
  rw [String.toList_append, String.toList_append, String.toList_ofList,
    String.toList_ofList] at hlists
  obtain ⟨⟨u, v⟩, hmem, hne⟩ := List.any_eq_true.mp h
  obtain ⟨k, hk⟩ := List.mem_iff_getElem?.mp hmem
  obtain ⟨hu, hv⟩ := List.getElem?_zip_eq_some.mp hk
  have hget := congrArg (fun l : List Char => l[k]?) hlists
  dsimp only at hget hne hu hv
  rw [List.getElem?_append_left (List.getElem?_eq_some_iff.mp hu).1,
    List.getElem?_append_left (List.getElem?_eq_some_iff.mp hv).1, hu, hv] at hget
  rw [Option.some.inj hget, bne_self_eq_false] at hne
  cases hne

/-- **The crash of a memory that was not created is that of nothing else.** -/
theorem ofMemory_of_linkCrash {e e' : LinkError} (he : e.OfMemory)
    (h : s.linkCrash e = s.linkCrash e') : e'.OfMemory := by
  have hmessage := congrArg Crash.message h
  cases e' with
  | memoryRefused r => exact .refused r
  | pageRefused r => exact .page r
  | dataBounds => cases he <;> cases congrArg Crash.kind h
  -- the others differ in the beginning of the message
  | _ =>
    exfalso
    simp only [linkCrash, String.append_assoc] at hmessage
    cases he with
    | refused r => exact append_ne_of_clash (by decide) _ _ hmessage
    | page r => exact append_ne_of_clash (by decide) _ _ hmessage

/-- A run that ends with a link crash ends before it starts. -/
theorem prepare_of_link {console : Console} {crash : Crash}
    (h : (s.execute console artifact).result = .error crash) (hk : crash.kind = .link) :
    s.prepare artifact = .error crash := by
  obtain ⟨f, -, rfl⟩ | ⟨-, hends⟩ := crash_cases h
  · cases f <;> cases hk
  · cases hends with
    | unready hp => exact hp
    | trapped hp t => cases hk
    | noEntry hp started wanted missing => cases hk

theorem kind_of_ofMemory {e : LinkError} (he : e.OfMemory) : (s.linkCrash e).kind = .link := by
  cases he with
  | refused r => rfl
  | page r => rfl

theorem execute_of_not_admits (h : s.Wants artifact m c t)
    (ha : ¬ Admits t s.limits.maxMemoryPages t.firstPages) (console : Console) :
    s.execute console artifact = ⟨console, .error (s.linkCrash t.refusal)⟩ := by
  simp only [execute, h.prepare_of_not_admits ha]

theorem told_iff (h : s.Wants artifact m c t) (console : Console) :
    (∃ e : LinkError, e.OfMemory ∧
      (s.execute console artifact).result = .error (s.linkCrash e)) ↔
    ¬ Admits t s.limits.maxMemoryPages t.firstPages := by
  constructor
  · rintro ⟨e, he, hresult⟩ ha
    have hp := prepare_of_link hresult (kind_of_ofMemory he)
    rw [h.prepare_of_admits ha] at hp
    cases hl : linkTo m c ⟨s.space⟩ s.limits.maxMemoryPages t _ with
    | ok i => rw [hl] at hp; cases hp
    | error e' =>
      rw [hl] at hp
      -- linking fails, but for no such reason
      exact errorsIn_linkTo _ _ e' hl (ofMemory_of_linkCrash he (Except.error.inj hp).symm)
  · intro ha
    exact ⟨t.refusal, ofMemory_refusal t, by rw [execute_of_not_admits h ha]⟩

/-! ## The pages of a run -/

section

variable {i : Instance} (h : s.Wants artifact m c t) (hp : s.prepare artifact = .ok i)

include h hp

theorem shapes_of_prepare : i.store.shapes[0]? = some (Memory.shape
    ⟨#[], t.firstPages * pageSize, Memory.typeBound t, s.limits.maxMemoryPages⟩) :=
  Instance.shapes_build (h.build_of_prepare hp).2

/-- **At any time the first memory is in its bounds.** -/
theorem firstMemory_within {machine : Machine} (hv : s.Visits i machine) :
    machine.store.HasShape 0
      (Memory.Shape.Within t s.limits.maxMemoryPages t.firstPages) := by
  refine holds_of_visits (fun m' => m'.step_hasShape fun memory delta grown => ?_) ?_ hv
  · exact fun hm => Memory.within_of_grow hm
  · exact ⟨_, shapes_of_prepare h hp,
      Memory.within_of_created h.fits (h.build_of_prepare hp).1⟩

theorem within_of_visits {machine : Machine} (hv : s.Visits i machine) {memory : Memory}
    (hmemory : machine.store.memories[0]? = some memory) :
    memory.shape.Within t s.limits.maxMemoryPages t.firstPages := by
  obtain ⟨shape, hshape, hwithin⟩ := firstMemory_within h hp hv
  rw [Store.shapes_getElem? hmemory] at hshape
  cases hshape
  exact hwithin

variable {machine : Machine} (hv : s.Visits i machine) {own : MemoryType} {memory : Memory}
  {delta : Cell} {rest : List Cell} (hasks : AsksFor m machine own memory delta rest)

include hv hasks

theorem step_of_admits (hreach : memory.pages + delta.toNat ≤ Memory.typeBound t)
    (ha : Admits t s.limits.maxMemoryPages (memory.pages + delta.toNat)) :
    machine.step i.program =
      machine.nextStore (cellOf own.address memory.pages :: rest)
        (Machine.changeMemory machine.store 0 fun _ =>
          memory.withPages (memory.pages + delta.toNat)) := by
  obtain ⟨x, hx, hgrow⟩ := hasks.grows
  have hplace := Instance.memoryAt_imported (h.build_of_prepare hp).2 hx
  have hgrown := Memory.grow_of_admits (within_of_visits h hp hv hasks.present) hreach ha
  exact Machine.step_grow machine hgrow hplace hasks.stack hasks.present hgrown

theorem step_of_not_admits
    (ha : ¬ (memory.pages + delta.toNat ≤ Memory.typeBound t ∧
      Admits t s.limits.maxMemoryPages (memory.pages + delta.toNat))) :
    machine.step i.program = machine.next (failure own.address :: rest) := by
  obtain ⟨x, hx, hgrow⟩ := hasks.grows
  have hplace := Instance.memoryAt_imported (h.build_of_prepare hp).2 hx
  obtain ⟨r, hr⟩ := Memory.grow_of_not_admits (within_of_visits h hp hv hasks.present) ha
  exact Machine.step_grow_of_error machine hgrow hplace hasks.stack hasks.present hr

end

/-- **The memory starts with its first pages and stays within its bounds.** -/
theorem pages_kept (h : s.Wants artifact m c t) : s.PagesKept artifact m c t where
  bytes pages := Limits.le_maxMemoryBytes_iff
  saturating cap := Limits.maxMemoryBytes_saturating
  created ha := ⟨_, Memory.createMemory_of_admits h.fits ha, Memory.pages_mk _ _ _ _,
    h.prepare_of_admits ha⟩
  refused ha console :=
    ⟨execute_of_not_admits h ha console, kind_of_ofMemory (ofMemory_refusal t)⟩
  told := told_iff h
  imported i hp x own := Instance.memoryAt_imported (h.build_of_prepare hp).2
  started i hp := by
    obtain ⟨memory, hmemory, hshape⟩ := Store.memory_of_shapes (shapes_of_prepare h hp)
    have hsize : memory.size = t.firstPages * pageSize := congrArg Memory.Shape.size hshape
    exact ⟨memory, hmemory, by rw [Memory.pages, hsize, Memory.pages_mul], hsize⟩
  kept i hp machine hv := by
    obtain ⟨shape, hshape, hwithin⟩ := firstMemory_within h hp hv
    obtain ⟨memory, hmemory, rfl⟩ := Store.memory_of_shapes hshape
    exact ⟨memory, hmemory, hwithin.whole, hwithin.grown, hwithin.admitted⟩
  given i hp machine hv own memory delta rest hasks hreach ha := by
    refine ⟨_, memory.withPages (memory.pages + delta.toNat),
      step_of_admits h hp hv hasks hreach ha, ?_, Memory.pages_withPages _ _, rfl⟩
    rw [Machine.changeMemory, Array.getElem?_modify, if_pos rfl, hasks.present]
    rfl
  denied i hp machine hv own memory delta rest hasks ha :=
    ⟨_, step_of_not_admits h hp hv hasks ha, rfl, rfl⟩

/-- A module that imports a memory of no pages, three at most, and whose start function asks for one
more page twice. -/
def growsTwice : List UInt8 :=
  [0, 97, 115, 109, 1, 0, 0, 0,
    -- types: nothing to nothing
    1, 4, 1, 96, 0, 0,
    -- imports: the memory
    2, 16, 1, 3, 115, 121, 115, 6, 109, 101, 109, 111, 114, 121, 2, 1, 0, 3,
    -- one function, which is the start function
    3, 2, 1, 0, 8, 1, 0,
    -- its code: twice one, grow, drop
    10, 14, 1, 12, 0, 65, 1, 64, 0, 26, 65, 1, 64, 0, 26, 11]

/-- Under a cap of two pages it starts with one, is given the second and denied the third. -/
theorem pages_kept_growsTwice :
    let s : Sandbox := ⟨"sys", none, ⟨some 2, none⟩, 20⟩
    let t : MemoryType := ⟨.w32, ⟨0, some 3⟩⟩
    (∃ m c, s.Wants growsTwice m c t ∧ s.PagesKept growsTwice m c t) ∧
      Admits t s.limits.maxMemoryPages t.firstPages ∧
      ((s.prepare growsTwice).toOption.bind fun i =>
        (s.callStart i (.new (.new none) none)).2.toOption.bind fun store =>
          store.memories[0]?.map Memory.pages) = some 2 := by
  intro s t
  have htype : s.memoryType? growsTwice = some t := by decide +kernel
  obtain ⟨m, c, h⟩ := exists_wants_iff.mpr htype
  refine ⟨⟨m, c, h, pages_kept h⟩, ⟨?_, ?_⟩, by decide +kernel⟩
  · intro most hmost
    cases hmost
    decide
  · intro most hmost
    cases hmost
    decide

end Sandbox

end Playground
