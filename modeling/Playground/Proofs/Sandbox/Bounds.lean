import Mathlib.Algebra.Group.Nat.Defs
import Playground.Proofs.Sandbox.Causes

/-!
# The bounds of a print request

A program hands over an offset and a length as two numbers of 64 bits, and nothing is known of them.
The range is checked as if numbers had no bound. The same check can be done in words: an addition
that notices when the sum does not fit, a comparison, two conversions and a slice, none of which can
go wrong.

* `readWords` — the check in words; an index outside the memory would have no result.
* `readWords_eq` — it comes to the same as `readRange`, and never indexes outside.
* `Bounds` — what is asked of the check for one pair of numbers: which ranges it accepts, which bytes
  it gives, and that a refused request leaves no trace but its fault.
* `bounds_exact` — it holds of all memories and all pairs.
-/

set_option autoImplicit false

namespace Playground.Wasm.Memory

/-- The byte at an address inside the memory. -/
def byte? (m : Memory) (address : Nat) : Option UInt8 :=
  if address < m.size then some (m.byte address) else none

/-- The bytes from an address up to another one, if there are such. -/
def between? (m : Memory) (start stop : Nat) : Option (List UInt8) :=
  if start ≤ stop ∧ stop ≤ m.size then some (m.slice start (stop - start)) else none

end Playground.Wasm.Memory

namespace Playground.Sandbox

open Wasm

/-! ## The check in words -/

/-- The sum of two words, unless it is too large for one. -/
def checkedAdd (a b : UInt64) : Option UInt64 := if a + b < a then none else some (a + b)

/-- A word as an address below a limit. -/
def narrow (limit : Nat) (x : UInt64) : Option Nat := if x.toNat < limit then some x.toNat else none

/-- The bytes of a range, checked in words on a machine whose addresses are below a limit. There is
no result if the slice that is taken in the end does not exist. -/
def readWords (limit : Nat) (memory : Memory) (offset length : UInt64) :
    Option (Except Fault (List UInt8)) :=
  let refused := .error (.outOfBounds offset.toNat length.toNat memory.size)
  match checkedAdd offset length with
  | none => some refused
  | some stop =>
    if memory.size.toUInt64 < stop then some refused
    else match narrow limit offset, narrow limit stop with
      | some start, some stop => .ok <$> memory.between? start stop
      | _, _ => some refused

theorem checkedAdd_of_overflow {a b : UInt64} (h : 2 ^ 64 ≤ a.toNat + b.toNat) :
    checkedAdd a b = none := by
  have ha := a.toNat_lt
  have hb := b.toNat_lt
  refine if_pos ?_
  rw [UInt64.lt_iff_toNat_lt, UInt64.toNat_add]
  omega

theorem checkedAdd_of_fits {a b : UInt64} (h : a.toNat + b.toNat < 2 ^ 64) :
    ∃ sum : UInt64, checkedAdd a b = some sum ∧ sum.toNat = a.toNat + b.toNat := by
  have hsum : (a + b).toNat = a.toNat + b.toNat := by
    rw [UInt64.toNat_add]
    exact Nat.mod_eq_of_lt h
  refine ⟨a + b, if_neg ?_, hsum⟩
  rw [UInt64.lt_iff_toNat_lt, hsum]
  omega

/-- **The check in words is the check on numbers**, and the slice that it takes always exists. -/
theorem readWords_eq {limit : Nat} {memory : Memory} (hsize : memory.size < limit)
    (hlimit : limit ≤ 2 ^ 64) (offset length : UInt64) :
    readWords limit memory offset length = some (readRange memory offset length) := by
  have hmemory : memory.size.toUInt64.toNat = memory.size :=
    Nat.mod_eq_of_lt (Nat.lt_of_lt_of_le hsize hlimit)
  by_cases hsum : offset.toNat + length.toNat < 2 ^ 64
  · obtain ⟨stop, hadd, hstop⟩ := checkedAdd_of_fits hsum
    by_cases hinside : offset.toNat + length.toNat ≤ memory.size
    · have hcompare : ¬ memory.size.toUInt64 < stop := by
        rw [UInt64.lt_iff_toNat_lt, hmemory, hstop]
        omega
      -- both ends are at most the size, so neither conversion fails
      have hstart : narrow limit offset = some offset.toNat := if_pos (by omega)
      have hend : narrow limit stop = some (offset.toNat + length.toNat) := by
        rw [narrow, hstop, if_pos (by omega)]
      have hslice : memory.between? offset.toNat (offset.toNat + length.toNat) =
          some (memory.slice offset.toNat length.toNat) := by
        rw [Memory.between?, if_pos ⟨Nat.le_add_right _ _, hinside⟩, Nat.add_sub_cancel_left]
      simp only [readWords, hadd, if_neg hcompare, hstart, hend, hslice,
        readRange_of_inside hinside, Option.map_eq_map, Option.map_some]
    · have hcompare : memory.size.toUInt64 < stop := by
        rw [UInt64.lt_iff_toNat_lt, hmemory, hstop]
        omega
      simp only [readWords, hadd, if_pos hcompare, readRange_of_outside (Nat.not_le.mp hinside)]
  · have houtside : memory.size < offset.toNat + length.toNat := by omega
    simp only [readWords, checkedAdd_of_overflow (Nat.not_lt.mp hsum),
      readRange_of_outside houtside]

/-- A sum that is zero in words lies outside. -/
example : readWords (2 ^ 63) ⟨#[], 16, 0, none⟩ (0 - 1) 1 =
    some (.error (.outOfBounds (2 ^ 64 - 1) 1 16)) := rfl

/-! ## Requests -/

section

variable {memory : Memory} {offset length : UInt64}

theorem readRange_ok_iff : (∃ bytes, readRange memory offset length = .ok bytes) ↔
    offset.toNat + length.toNat ≤ memory.size := by
  constructor
  · rintro ⟨bytes, hbytes⟩
    rcases Nat.lt_or_ge memory.size (offset.toNat + length.toNat) with hout | hinside
    · rw [readRange_of_outside hout] at hbytes
      cases hbytes
    · exact hinside
  · intro hinside
    exact ⟨_, readRange_of_inside hinside⟩

/-- The bytes of a range are those at its addresses, all of which are inside the memory. -/
theorem getElem?_of_readRange {bytes : List UInt8}
    (h : readRange memory offset length = .ok bytes) :
    bytes.length = length.toNat ∧ ∀ k < length.toNat,
      ∃ b, bytes[k]? = some b ∧ memory.byte? (offset.toNat + k) = some b := by
  have hinside := readRange_ok_iff.mp ⟨bytes, h⟩
  rw [readRange_of_inside hinside] at h
  obtain rfl := Except.ok.inj h
  refine ⟨Memory.length_slice _ _ _, fun k hk => ⟨_, Memory.getElem?_slice _ _ hk, ?_⟩⟩
  exact if_pos (by omega)

/-- **A refused request leaves nothing but its fault.** -/
theorem print_of_outside (h : Host) (hout : memory.size < offset.toNat + length.toNat) :
    h.print memory offset length =
      { h with fault := some (.outOfBounds offset.toNat length.toNat memory.size) } := by
  simp only [Host.print, readRange_of_outside hout]

end

theorem toNat_of_neg {i : Int64} (h : i < 0) : 2 ^ 63 ≤ i.toUInt64.toNat := by
  have hint : i.toInt < 0 := Int64.lt_iff_toInt_lt.mp h
  have hbits : i.toBitVec.toInt = if 2 * i.toBitVec.toNat < 2 ^ 64
      then (i.toBitVec.toNat : Int) else i.toBitVec.toNat - (2 ^ 64 : Nat) :=
    BitVec.toInt_eq_toNat_cond i.toBitVec
  have htoInt : i.toInt = i.toBitVec.toInt := rfl
  have htoNat : i.toUInt64.toNat = i.toBitVec.toNat := rfl
  split at hbits <;> omega

/-- What is asked of the check of a range. -/
structure Bounds (memory : Memory) (offset length : UInt64) : Prop where
  /-- The two numbers on the stack of a program are the range that it asks for, bit for bit. -/
  handed : ∀ (m : Machine) (stack : List Cell) (pc : Nat), m.store.memories[0]? = some memory →
    m.request (length :: offset :: stack) pc =
      .printing memory offset length { m with frame := { m.frame with pc, stack } }
  /-- Exactly the ranges inside the memory are accepted. -/
  accepted_iff : (∃ bytes, readRange memory offset length = .ok bytes) ↔
    offset.toNat + length.toNat ≤ memory.size
  /-- What is read are the bytes of the range, and no address is outside the memory. -/
  bytes : ∀ bytes, readRange memory offset length = .ok bytes →
    bytes.length = length.toNat ∧ ∀ k < length.toNat,
      ∃ b, bytes[k]? = some b ∧ memory.byte? (offset.toNat + k) = some b
  /-- Checking in words never fails to give an answer, and gives this one. -/
  words : ∀ limit, memory.size < limit → limit ≤ 2 ^ 64 →
    readWords limit memory offset length = some (readRange memory offset length)
  /-- A host that refuses the range keeps its console, with the renderer, and its count. -/
  refused : memory.size < offset.toNat + length.toNat → ∀ h : Host,
    h.print memory offset length =
      { h with fault := some (.outOfBounds offset.toNat length.toNat memory.size) }
  /-- A run in which the range is refused ends there, as the requests before it left things. -/
  run : memory.size < offset.toNat + length.toNat →
    ∀ (s : Sandbox) (console : Console) (artifact : List UInt8) (before after : List Request),
      s.calls console artifact = before ++ ⟨memory, offset, length⟩ :: after →
        let h := (s.newHost console).serve before
        let fault : Fault := .outOfBounds offset.toNat length.toNat memory.size
        after = [] ∧ h.fault = none ∧ s.lastHost console artifact = { h with fault := some fault } ∧
          s.execute console artifact = ⟨h.console, .error ⟨.memoryAccess, fault.message⟩⟩

/-- A run ends at a request outside the memory. -/
theorem run_of_outside {s : Sandbox} {console : Console} {artifact : List UInt8}
    {before after : List Request} {r : Request} (hout : r.Outside)
    (hcalls : s.calls console artifact = before ++ r :: after) :
    let h := (s.newHost console).serve before
    after = [] ∧ h.fault = none ∧
      s.lastHost console artifact = { h with fault := some r.boundsFault } ∧
      s.execute console artifact = ⟨h.console, .error ⟨.memoryAccess, r.boundsFault.message⟩⟩ := by
  intro h
  obtain ⟨hserved, hrefused⟩ := Host.made_split before rfl hcalls
  have hanswer : h.answer r = { h with fault := some r.boundsFault } :=
    Host.answer_of_error (Request.content_of_outside hout)
  obtain ⟨hlast, hserve⟩ := hrefused r.boundsFault (by rw [hanswer])
  have hlastHost : s.lastHost console artifact = { h with fault := some r.boundsFault } := by
    rw [lastHost_eq, hserve, hanswer]
  have hfault : (s.lastHost console artifact).fault = some r.boundsFault := by rw [hlastHost]
  have hconsole : (s.execute console artifact).console = h.console := by
    rw [console_execute, hlastHost]
  refine ⟨hlast, hserved, hlastHost, ?_⟩
  calc s.execute console artifact
      = ⟨(s.execute console artifact).console, (s.execute console artifact).result⟩ := rfl
    _ = ⟨h.console, .error (refusalCrash r.boundsFault)⟩ := by
      rw [hconsole, result_of_refused hfault]

/-- **Bounds are exact over all words, and a refusal is atomic.** This holds of every memory and of
every pair of signed numbers that a program hands over, whatever they are read as. In a memory below
2 ^ 63 bytes a negative number is never inside. -/
theorem bounds_exact (memory : Memory) (i j : Int64) :
    Bounds memory i.toUInt64 j.toUInt64 ∧
      (memory.size < 2 ^ 63 → i < 0 ∨ j < 0 →
        memory.size < i.toUInt64.toNat + j.toUInt64.toNat) := by
  constructor
  · exact {
      handed := fun m stack pc hfirst => by simp only [Machine.request, popCell, hfirst]
      accepted_iff := readRange_ok_iff
      bytes := fun _ => getElem?_of_readRange
      words := fun _ hsize hlimit => readWords_eq hsize hlimit _ _
      refused := fun hout h => print_of_outside h hout
      run := fun hout _ _ _ _ _ hcalls => run_of_outside (r := ⟨memory, _, _⟩) hout hcalls }
  · rintro hsize (hi | hj)
    · have hlarge := toNat_of_neg hi
      omega
    · have hlarge := toNat_of_neg hj
      omega

end Playground.Sandbox
