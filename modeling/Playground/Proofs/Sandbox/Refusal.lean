import Playground.Proofs.Sandbox.Course

/-!
# Refused requests

A refusal ends a run, so at most one request of a run is refused, and it is the last one that is
made. This file says which one it is and why, without looking at what the host has noted:

* `Outside` — the range of a request is not inside the memory.
* `HitsLimit` — the lines of a request do not fit under the limit together with those before it.
* `made_split`, `exists_refused` — a request that was made was reached without a refusal, and a
  refusal belongs to a request that was made.
* `fault_iff_outside`, `fault_iff_hitsLimit` — the fault that is noted tells the reason.
-/

set_option autoImplicit false

namespace Playground.Sandbox

namespace Request

variable {r : Request}

/-- The range goes beyond the memory. -/
def Outside (r : Request) : Prop := r.memory.size < r.offset.toNat + r.length.toNat

/-- The fault of asking for a range beyond the memory. -/
def boundsFault (r : Request) : Fault :=
  .outOfBounds r.offset.toNat r.length.toNat r.memory.size

theorem content_of_outside (h : r.Outside) : r.content = .error r.boundsFault :=
  readRange_of_outside h

theorem content_of_inside (h : ¬ r.Outside) : ∃ bytes, r.content = .ok bytes :=
  ⟨_, readRange_of_inside (Nat.not_lt.mp h)⟩

end Request

/-- Among the requests that are made, one inside the memory asks for more lines than the limit
leaves room for. -/
def HitsLimit (n : Nat) (calls : List Request) : Prop :=
  ∃ before r after, calls = before ++ r :: after ∧ ¬ r.Outside ∧
    n < ((before ++ [r]).flatMap Request.lines).length

namespace Host

variable {h : Host} {r : Request} {f : Fault}

theorem mem_of_mem_made (rs : List Request) : ∀ {h : Host}, r ∈ h.made rs → r ∈ rs := by
  induction rs with
  | nil => intro h hmem; cases hmem
  | cons first rest ih =>
    intro h hmem
    cases hf : (h.answer first).fault with
    | some f =>
      rw [made_cons_of_refused hf, List.mem_singleton] at hmem
      rw [hmem]
      exact List.mem_cons_self
    | none =>
      rw [made_cons_of_served hf] at hmem
      obtain rfl | hmem := List.mem_cons.mp hmem
      · exact List.mem_cons_self
      · exact List.mem_cons_of_mem _ (ih hmem)

/-- After requests that are all served, the others are made as the host then answers them. -/
theorem made_append (rs ss : List Request) : ∀ {h : Host}, (h.serve rs).fault = none →
    h.made (rs ++ ss) = rs ++ (h.serve rs).made ss := by
  induction rs with
  | nil => intro h _; rfl
  | cons r rs ih =>
    intro h hf
    cases hr : (h.answer r).fault with
    | some f => rw [serve_cons_of_refused hr, hr] at hf; cases hf
    | none =>
      rw [serve_cons_of_served hr] at hf
      rw [List.cons_append, made_cons_of_served hr, serve_cons_of_served hr, ih hf,
        List.cons_append]

/-- After a refusal no request is made. -/
theorem made_append_of_refused (rs ss : List Request) : ∀ {h : Host}, h.fault = none →
    (h.serve rs).fault = some f → h.made (rs ++ ss) = h.made rs := by
  induction rs with
  | nil =>
    intro h hn hf
    rw [serve, hn] at hf
    cases hf
  | cons r rs ih =>
    intro h _ hf
    cases hr : (h.answer r).fault with
    | some f' => rw [List.cons_append, made_cons_of_refused hr, made_cons_of_refused hr]
    | none =>
      rw [serve_cons_of_served hr] at hf
      rw [List.cons_append, made_cons_of_served hr, made_cons_of_served hr, ih hr hf]

/-- A request that is made was reached without a refusal; if it is refused, it is the last one, and
the host stays as it then is. -/
theorem made_split {after : List Request} (before : List Request) : ∀ {h : Host}
    {rs : List Request}, h.fault = none → h.made rs = before ++ r :: after →
      (h.serve before).fault = none ∧
        ∀ f, ((h.serve before).answer r).fault = some f →
          after = [] ∧ h.serve rs = (h.serve before).answer r := by
  induction before with
  | nil =>
    intro h rs hn hmade
    cases rs with
    | nil => cases hmade
    | cons first rest =>
      obtain rfl : first = r := (List.cons.inj hmade).1
      refine ⟨hn, fun f hf => ?_⟩
      have hf' : (h.answer first).fault = some f := hf
      rw [made_cons_of_refused hf'] at hmade
      exact ⟨(List.cons.inj hmade).2.symm, serve_cons_of_refused hf' rest⟩
  | cons b before ih =>
    intro h rs hn hmade
    cases rs with
    | nil => cases hmade
    | cons first rest =>
      obtain rfl : first = b := (List.cons.inj hmade).1
      cases hb : (h.answer first).fault with
      | some f =>
        rw [made_cons_of_refused hb] at hmade
        simp at hmade
      | none =>
        rw [made_cons_of_served hb] at hmade
        rw [serve_cons_of_served hb, serve_cons_of_served hb]
        exact ih hb (List.cons.inj hmade).2

/-- The refusal of a run belongs to the last request that is made. -/
theorem exists_refused (rs : List Request) : ∀ {h : Host}, h.fault = none →
    (h.serve rs).fault = some f → ∃ before r, h.made rs = before ++ [r] ∧
      (h.serve before).fault = none ∧ ((h.serve before).answer r).fault = some f := by
  induction rs with
  | nil =>
    intro h hn hf
    rw [serve, hn] at hf
    cases hf
  | cons r rs ih =>
    intro h hn hf
    cases hr : (h.answer r).fault with
    | some f' =>
      rw [serve_cons_of_refused hr, hr] at hf
      cases hf
      exact ⟨[], r, made_cons_of_refused hr rs, hn, hr⟩
    | none =>
      rw [serve_cons_of_served hr] at hf
      obtain ⟨before, last, hmade, hserved, hlast⟩ := ih hr hf
      refine ⟨r :: before, last, ?_, ?_, ?_⟩
      · rw [made_cons_of_served hr, hmade]; rfl
      · rw [serve_cons_of_served hr]; exact hserved
      · rw [serve_cons_of_served hr]; exact hlast

/-! ## Why a request is refused -/

variable {console : Console} {limit : Option Nat}

/-- Requests that are all served have their lines counted. -/
theorem printed_of_served {rs : List Request}
    (hf : ((Host.new console limit).serve rs).fault = none) :
    ((Host.new console limit).serve rs).Printed console limit (rs.flatMap Request.lines) := by
  obtain ⟨lines, -, hp, hall⟩ := (printed_new console limit).serve rs rfl
  rw [List.nil_append, hall hf, made_of_served rs hf] at hp
  exact hp

/-- A request beyond the memory is made if and only if it is the fault of the run. -/
theorem fault_iff_outside (rs : List Request) (offset length size : Nat) :
    ((Host.new console limit).serve rs).fault = some (.outOfBounds offset length size) ↔
      ∃ r ∈ (Host.new console limit).made rs, r.Outside ∧
        r.boundsFault = .outOfBounds offset length size := by
  have hnew : (Host.new console limit).fault = none := rfl
  constructor
  · intro hf
    obtain ⟨before, r, hmade, hserved, hlast⟩ := exists_refused rs hnew hf
    refine ⟨r, by rw [hmade]; simp, ?_⟩
    by_cases hr : r.Outside
    · rw [answer_of_error (Request.content_of_outside hr)] at hlast
      exact ⟨hr, Option.some.inj hlast⟩
    · -- inside the memory only the limit refuses
      obtain ⟨bytes, hbytes⟩ := Request.content_of_inside hr
      obtain ⟨n, -, hkind, -⟩ := (printed_of_served hserved).refusal hserved hbytes hlast
      cases hkind
  · rintro ⟨r, hmem, hr, hfault⟩
    obtain ⟨before, after, hmade⟩ := List.append_of_mem hmem
    obtain ⟨-, hrefused⟩ := made_split before hnew hmade
    have hanswer := answer_of_error (h := (Host.new console limit).serve before)
      (Request.content_of_outside hr)
    rw [(hrefused r.boundsFault (by rw [hanswer])).2, hanswer, hfault]

/-- A request hits the limit if and only if this is the fault of the run. -/
theorem fault_iff_hitsLimit (rs : List Request) (n : Nat) :
    ((Host.new console limit).serve rs).fault = some (.outputLimit n) ↔
      limit = some n ∧ HitsLimit n ((Host.new console limit).made rs) := by
  have hnew : (Host.new console limit).fault = none := rfl
  constructor
  · intro hf
    obtain ⟨before, r, hmade, hserved, hlast⟩ := exists_refused rs hnew hf
    have hp := printed_of_served hserved
    have hr : ¬ r.Outside := by
      intro hr
      rw [answer_of_error (Request.content_of_outside hr)] at hlast
      cases hlast
    obtain ⟨bytes, hbytes⟩ := Request.content_of_inside hr
    obtain ⟨m, hlimit, hkind, -⟩ := hp.refusal hserved hbytes hlast
    cases hkind
    obtain ⟨m, hm, hover⟩ := (hp.refused_iff hserved hbytes).mp (by rw [hlast]; rfl)
    obtain rfl : m = n := Option.some.inj (hm.symm.trans hlimit)
    refine ⟨hlimit, before, r, [], hmade, hr, ?_⟩
    rw [List.flatMap_append, List.flatMap_singleton, List.length_append, ← hp.written]
    exact hover
  · rintro ⟨hlimit, before, r, after, hmade, hr, hover⟩
    obtain ⟨hserved, hrefused⟩ := made_split before hnew hmade
    have hp := printed_of_served hserved
    obtain ⟨bytes, hbytes⟩ := Request.content_of_inside hr
    rw [List.flatMap_append, List.flatMap_singleton, List.length_append, ← hp.written] at hover
    have hsome := (hp.refused_iff hserved hbytes).mpr ⟨n, hlimit, hover⟩
    obtain ⟨f, hf⟩ := Option.isSome_iff_exists.mp hsome
    obtain ⟨m, hm, hkind, -⟩ := hp.refusal hserved hbytes hf
    obtain rfl : m = n := Option.some.inj (hm.symm.trans hlimit)
    rw [(hrefused f hf).2, hf, hkind]

end Host

end Playground.Sandbox
