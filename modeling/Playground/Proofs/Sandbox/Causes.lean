import Playground.Proofs.Sandbox.Refusal
import Playground.Proofs.Wasm.Attached

/-!
# The cause of a crash

A crash names its cause. A refused request is reported by the host and by nothing else, whatever was
being executed; without a refusal the crash is that of the stage that failed.

* `lastHost`, `calls` — the host that a run leaves, and the requests that are made in it.
* `FunctionFails` — the start function or the entry point does not finish.
* `Ends` — the crashes that come without a refusal, by the stage that they come from.
* `Visits` — the machines that a run can go through; `holds_of_visits` says that what every step keeps
  holds of them all, `attached_of_visits` that each of them has a memory to print from, and
  `makes_of_mem_calls` that the requests are theirs.
* `causes_told` — what every kind of crash says about the run.
-/

set_option autoImplicit false

namespace Playground

open Sandbox Wasm

namespace Sandbox

variable (s : Sandbox) (console : Console) (artifact : List UInt8)

/-- The host at the start of a run. -/
def newHost : Host := .new console s.limits.maxOutputLines

/-- The host that a run leaves. -/
def lastHost : Host :=
  match s.prepare artifact with
  | .error _ => s.newHost console
  | .ok i =>
    match s.callStart i (s.newHost console) with
    | (h, .error _) => h
    | (h, .ok store) => (s.callEntry i h store).1

/-- The requests that are made in a run, the refused one included. -/
def calls : List Request := (s.newHost console).made (s.course artifact).requests

/-- The start function or the entry point does not finish: the host it leaves, and the crash. -/
inductive FunctionFails : Host → Crash → Prop
  | start {i : Instance} {index : Nat} {h : Host} {crash : Crash}
      (ready : s.prepare artifact = .ok i) (starts : i.start = some index)
      (fails : s.callFunction i (s.newHost console) i.store index = (h, .error crash)) :
      FunctionFails h crash
  | entry {i : Instance} {h₁ h : Host} {store : Store} {name : String} {index : Nat}
      {crash : Crash} (ready : s.prepare artifact = .ok i)
      (started : s.callStart i (s.newHost console) = (h₁, .ok store))
      (wanted : s.entryPoint = some name) (found : i.entry name = .ok index)
      (fails : s.callFunction i h₁ store index = (h, .error crash)) : FunctionFails h crash

/-- The crashes of runs in which no request is refused. -/
inductive Ends : Crash → Prop
  /-- The artifact cannot be made ready. -/
  | unready {crash : Crash} (h : s.prepare artifact = .error crash) : Ends crash
  /-- Executed code stops. -/
  | trapped {i : Instance} (h : s.prepare artifact = .ok i) (t : Trap) : Ends ⟨.trap, t.message⟩
  /-- The start function finishes, and there is no entry point. -/
  | noEntry {i : Instance} {store : Store} {name : String} {e : EntryError}
      (h : s.prepare artifact = .ok i) (started : (s.startCourse i).ending = .ok store)
      (wanted : s.entryPoint = some name) (missing : i.entry name = .error e) :
      Ends (entryCrash name e)

variable {s console artifact}

/-! ## What a run leaves -/

theorem lastHost_eq :
    s.lastHost console artifact = (s.newHost console).serve (s.course artifact).requests := by
  have hnew : (s.newHost console).fault = none := rfl
  have hfollow : s.lastHost console artifact =
      ((s.newHost console).follow refusalCrash (s.course artifact)).1 := by
    cases hp : s.prepare artifact with
    | error crash => simp only [lastHost, course, hp]; rfl
    | ok i =>
      simp only [lastHost, course, hp, callStart_eq hnew, Host.follow_bind hnew]
      cases hstart : (s.newHost console).follow refusalCrash (s.startCourse i) with
      | mk h result =>
        cases result with
        | error crash => rfl
        | ok store => simp only [callEntry_eq (Host.fault_of_follow_ok hstart)]
  exact hfollow

theorem console_execute :
    (s.execute console artifact).console = (s.lastHost console artifact).console := by
  rw [execute_eq, lastHost_eq]; rfl

theorem result_of_refused {f : Fault} (hf : (s.lastHost console artifact).fault = some f) :
    (s.execute console artifact).result = .error (refusalCrash f) := by
  rw [lastHost_eq] at hf
  rw [execute_eq, ← newHost, Host.follow_of_refused hf]
  rfl

theorem result_of_served (hf : (s.lastHost console artifact).fault = none) :
    (s.execute console artifact).result =
      (s.course artifact).ending.map fun _ => (s.lastHost console artifact).written := by
  rw [lastHost_eq] at hf ⊢
  rw [execute_eq, ← newHost, Host.follow_of_served hf]

/-- Without a refusal the lines of all requests are on the console. -/
theorem console_of_served (hf : (s.lastHost console artifact).fault = none) :
    (s.lastHost console artifact).console =
      console.afterAll (((s.course artifact).requests.flatMap Request.lines).map .line) := by
  rw [lastHost_eq] at hf ⊢
  exact (Host.printed_of_served hf).console

/-! ## Crashes without a refusal -/

theorem ofMachine_ending {σ : Type} {step : σ → Progress σ} (fuel : Nat) : ∀ {m : σ} {stop : Stop},
    (Course.ofMachine step fuel m).ending = .error stop → ∃ t, stop = .trapped t := by
  induction fuel with
  | zero =>
    intro m stop h
    cases h
    exact ⟨_, rfl⟩
  | succ fuel ih =>
    intro m stop h
    rw [Course.ofMachine] at h
    cases hstep : step m with
    | running next => rw [hstep] at h; exact ih h
    | finished store => rw [hstep] at h; cases h
    | trapped t => rw [hstep] at h; cases h; exact ⟨t, rfl⟩
    | printing memory offset length next => rw [hstep] at h; exact ih h

/-- Executed code that is not refused a request fails by a trap. -/
theorem functionCourse_ending {i : Instance} {store : Store} {index : Nat} {crash : Crash}
    (h : (s.functionCourse i store index).ending = .error crash) :
    ∃ t : Trap, crash = ⟨.trap, t.message⟩ := by
  unfold functionCourse at h
  split at h
  · cases h
  · rename_i m _
    cases hend : (Course.ofMachine (Machine.step i.program) s.fuel m).ending with
    | ok store' => rw [Course.mapError, hend] at h; cases h
    | error stop =>
      rw [Course.mapError, hend] at h
      obtain ⟨t, rfl⟩ := ofMachine_ending _ hend
      cases h
      exact ⟨t, rfl⟩

theorem startCourse_ending {i : Instance} {crash : Crash}
    (h : (s.startCourse i).ending = .error crash) : ∃ t : Trap, crash = ⟨.trap, t.message⟩ := by
  unfold startCourse at h
  split at h
  · cases h
  · exact functionCourse_ending h

theorem ends_of_ending {crash : Crash} (h : (s.course artifact).ending = .error crash) :
    s.Ends artifact crash := by
  cases hp : s.prepare artifact with
  | error crash' =>
    simp only [course, hp] at h
    cases h
    exact .unready hp
  | ok i =>
    simp only [course, hp, Course.bind] at h
    cases hstart : (s.startCourse i).ending with
    | error crash' =>
      simp only [hstart] at h
      cases h
      obtain ⟨t, rfl⟩ := startCourse_ending hstart
      exact .trapped hp t
    | ok store =>
      simp only [hstart, entryCourse] at h
      split at h
      · cases h
      · rename_i name hname
        split at h
        · rename_i e he
          cases h
          exact .noEntry hp hstart hname he
        · obtain ⟨t, rfl⟩ := functionCourse_ending h
          exact .trapped hp t

theorem kind_linkCrash (e : LinkError) :
    (s.linkCrash e).kind = .link ∨ (s.linkCrash e).kind = .trap := by
  cases e with
  | dataBounds => exact .inr rfl
  | _ => exact .inl rfl

/-- The kinds of crash of an artifact that cannot be made ready. -/
theorem kind_of_prepare {crash : Crash} (h : s.prepare artifact = .error crash) :
    crash.kind = .invalidArtifact ∨ crash.kind = .link ∨ crash.kind = .trap := by
  unfold prepare at h
  split at h
  · cases h
    exact .inl rfl
  · rename_i m c _
    cases hi : instantiate m c ⟨s.space⟩ s.limits.maxMemoryPages with
    | ok i => rw [hi] at h; cases h
    | error e =>
      rw [hi] at h
      cases h
      exact .inr (kind_linkCrash e)

/-- Nothing but the host reports a refusal. -/
theorem Ends.kind_ne {crash : Crash} (h : s.Ends artifact crash) :
    crash.kind ≠ .memoryAccess ∧ crash.kind ≠ .outputLimit := by
  cases h with
  | unready hp =>
    obtain hk | hk | hk := kind_of_prepare hp <;> rw [hk] <;> exact ⟨nofun, nofun⟩
  | trapped _ t => exact ⟨nofun, nofun⟩
  | noEntry _ _ _ _ => exact ⟨nofun, nofun⟩

/-- **Where a crash comes from**: it is a refusal, or no request was refused. -/
theorem crash_cases {crash : Crash} (h : (s.execute console artifact).result = .error crash) :
    (∃ f, (s.lastHost console artifact).fault = some f ∧ crash = refusalCrash f) ∨
      (s.lastHost console artifact).fault = none ∧ s.Ends artifact crash := by
  cases hf : (s.lastHost console artifact).fault with
  | some f =>
    rw [result_of_refused hf] at h
    exact .inl ⟨f, rfl, (Except.error.inj h).symm⟩
  | none =>
    rw [result_of_served hf] at h
    cases hend : (s.course artifact).ending with
    | ok store => rw [hend] at h; cases h
    | error crash' =>
      rw [hend] at h
      cases h
      exact .inr ⟨rfl, ends_of_ending hend⟩

/-! ## Refusals -/

theorem result_memoryAccess_iff (message : String) :
    (s.execute console artifact).result = .error ⟨.memoryAccess, message⟩ ↔
      ∃ r ∈ s.calls console artifact, r.Outside ∧ message = r.boundsFault.message := by
  have hfault : ∀ offset length size, (s.lastHost console artifact).fault =
      some (.outOfBounds offset length size) ↔ ∃ r ∈ s.calls console artifact, r.Outside ∧
        r.boundsFault = .outOfBounds offset length size := by
    rw [lastHost_eq]
    exact Host.fault_iff_outside _
  constructor
  · intro h
    obtain ⟨f, hf, hcrash⟩ | ⟨-, hends⟩ := crash_cases h
    · cases f with
      | outputLimit n => cases hcrash
      | outOfBounds offset length size =>
        obtain ⟨r, hr, hout, hbounds⟩ := (hfault offset length size).mp hf
        refine ⟨r, hr, hout, ?_⟩
        rw [hbounds]
        exact congrArg Crash.message hcrash
    · exact absurd rfl hends.kind_ne.1
  · rintro ⟨r, hr, hout, rfl⟩
    exact result_of_refused ((hfault _ _ _).mpr ⟨r, hr, hout, rfl⟩)

theorem result_outputLimit_iff (message : String) :
    (s.execute console artifact).result = .error ⟨.outputLimit, message⟩ ↔
      ∃ n, s.limits.maxOutputLines = some n ∧ HitsLimit n (s.calls console artifact) ∧
        message = (Fault.outputLimit n).message := by
  have hfault : ∀ n, (s.lastHost console artifact).fault = some (.outputLimit n) ↔
      s.limits.maxOutputLines = some n ∧ HitsLimit n (s.calls console artifact) := by
    rw [lastHost_eq]
    exact Host.fault_iff_hitsLimit _
  constructor
  · intro h
    obtain ⟨f, hf, hcrash⟩ | ⟨-, hends⟩ := crash_cases h
    · cases f with
      | outOfBounds offset length size => cases hcrash
      | outputLimit n =>
        obtain ⟨hlimit, hhits⟩ := (hfault n).mp hf
        exact ⟨n, hlimit, hhits, congrArg Crash.message hcrash⟩
    · exact absurd rfl hends.kind_ne.2
  · rintro ⟨n, hlimit, hhits, rfl⟩
    exact result_of_refused ((hfault n).mpr ⟨hlimit, hhits⟩)

/-! ## Functions that fail -/

theorem callFunction_trapped {i : Instance} {h h' : Host} {store : Store} {index : Nat}
    {crash : Crash} (hn : h.fault = none)
    (hc : s.callFunction i h store index = (h', .error crash)) (hf : h'.fault = none) :
    ∃ t : Trap, crash = ⟨.trap, t.message⟩ := by
  rw [callFunction_eq hn] at hc
  cases hs : (h.serve (s.functionCourse i store index).requests).fault with
  | some f =>
    rw [Host.follow_of_refused hs, Prod.mk.injEq] at hc
    rw [← hc.1, hs] at hf
    cases hf
  | none =>
    rw [Host.follow_of_served hs, Prod.mk.injEq] at hc
    exact functionCourse_ending hc.2

/-- A host that finished the start function refused nothing. -/
theorem fault_of_callStart {i : Instance} {h : Host} {store : Store}
    (hc : s.callStart i (s.newHost console) = (h, .ok store)) : h.fault = none := by
  have hnew : (s.newHost console).fault = none := rfl
  rw [callStart_eq hnew] at hc
  exact Host.fault_of_follow_ok hc

namespace FunctionFails

variable {h : Host} {crash : Crash}

/-- A function that fails leaves its host and its crash to the run. -/
theorem result (hfails : s.FunctionFails console artifact h crash) :
    s.lastHost console artifact = h ∧ (s.execute console artifact).result = .error crash := by
  cases hfails with
  | @start i index _ _ ready starts fails =>
    have hc : s.callStart i (s.newHost console) = (h, .error crash) := by
      simp only [callStart, starts]
      exact fails
    have hexec : s.execute console artifact = ⟨h.console, .error crash⟩ := by
      rw [newHost] at hc
      simp only [execute, ready, hc]
    refine ⟨?_, by rw [hexec]⟩
    simp only [lastHost, ready, hc]
  | @entry i h₁ _ store name index _ ready started wanted found fails =>
    have hc : s.callEntry i h₁ store = (h, .error crash) := by
      simp only [callEntry, wanted, found]
      exact fails
    have hexec : s.execute console artifact = ⟨h.console, .error crash⟩ := by
      have hstart := started
      rw [newHost] at hstart
      simp only [execute, ready, hstart, hc]
    refine ⟨?_, by rw [hexec]⟩
    simp only [lastHost, ready, started, hc]

/-- Unless a request was refused, a function fails by a trap. -/
theorem trapped (hfails : s.FunctionFails console artifact h crash) (hf : h.fault = none) :
    ∃ t : Trap, crash = ⟨.trap, t.message⟩ := by
  cases hfails with
  | start ready starts fails => exact callFunction_trapped rfl fails hf
  | entry ready started wanted found fails =>
    exact callFunction_trapped (fault_of_callStart started) fails hf

end FunctionFails

/-! ## What every step keeps: the memory is always there -/

variable (s) in
/-- The machines that a run of an instance can go through. -/
inductive Visits (i : Instance) : Machine → Prop
  | start {index : Nat} {m : Machine} (starts : i.start = some index)
      (code : i.machine? i.store index = some m) : Visits i m
  | entry {h h' : Host} {store : Store} {name : String} {index : Nat} {m : Machine}
      (started : s.callStart i h = (h', .ok store)) (wanted : s.entryPoint = some name)
      (found : i.entry name = .ok index) (code : i.machine? store index = some m) : Visits i m
  | ran {m next : Machine} (visited : Visits i m)
      (step : m.step i.program = .running next) : Visits i next
  | printed {m next : Machine} {memory : Memory} {offset length : UInt64}
      (visited : Visits i m)
      (step : m.step i.program = .printing memory offset length next) : Visits i next

/-- What every step keeps of the store holds of the store that a function leaves. -/
theorem holds_of_drive {I : Store → Prop} {p : Program}
    (hstep : ∀ m : Machine, I m.store → (m.step p).Holds I) (fuel : Nat) :
    ∀ {h h' : Host} {m : Machine} {store : Store}, I m.store →
      drive (Machine.step p) fuel h m = (h', .ok store) → I store := by
  induction fuel with
  | zero =>
    intro h h' m store _ hd
    cases hd
  | succ fuel ih =>
    intro h h' m store hm hd
    have hnext := hstep m hm
    rw [drive] at hd
    cases hprogress : m.step p with
    | running next =>
      rw [hprogress] at hd hnext
      exact ih hnext hd
    | finished last =>
      rw [hprogress] at hd hnext
      cases hd
      exact hnext
    | trapped t => rw [hprogress] at hd; cases hd
    | printing memory offset length next =>
      rw [hprogress] at hd hnext
      dsimp only at hd
      split at hd
      · cases hd
      · exact ih hnext hd

theorem store_of_machine? {i : Instance} {store : Store} {index : Nat} {m : Machine}
    (h : i.machine? store index = some m) : m.store = store := by
  unfold Instance.machine? at h
  split at h
  · cases h; rfl
  · cases h

section

variable {I : Store → Prop} {i : Instance}
  (hstep : ∀ m : Machine, I m.store → (m.step i.program).Holds I) (hi : I i.store)

include hstep hi

theorem holds_of_callStart {h h' : Host} {store : Store}
    (hc : s.callStart i h = (h', .ok store)) : I store := by
  unfold callStart at hc
  split at hc
  · cases hc; exact hi
  · unfold callFunction at hc
    split at hc
    · cases hc; exact hi
    · rename_i m hm
      rw [Prod.mk.injEq] at hc
      cases hd : drive (Machine.step i.program) s.fuel h m with
      | mk h₁ result =>
        cases result with
        | error stop => rw [hd] at hc; cases hc.2
        | ok last =>
          rw [hd] at hc
          cases hc.2
          exact holds_of_drive hstep s.fuel (by rw [store_of_machine? hm]; exact hi) hd

/-- **What every step keeps of the store holds of every machine that a run goes through.** -/
theorem holds_of_visits {m : Machine} (hv : s.Visits i m) : I m.store := by
  induction hv with
  | start starts code =>
    rw [store_of_machine? code]
    exact hi
  | entry started wanted found code =>
    rw [store_of_machine? code]
    exact holds_of_callStart hstep hi started
  | @ran m next _ step ih =>
    have hnext := hstep m ih
    rw [step] at hnext
    exact hnext
  | @printed m next memory offset length _ step ih =>
    have hnext := hstep m ih
    rw [step] at hnext
    exact hnext

end

/-- **No machine that a run goes through is without a memory.** -/
theorem attached_of_visits {i : Instance} (hi : i.store.Attached) {m : Machine}
    (hv : s.Visits i m) : m.store.Attached :=
  holds_of_visits (fun _ => Machine.step_attached) hi hv

theorem attached_of_prepare {i : Instance} (h : s.prepare artifact = .ok i) :
    i.store.Attached := by
  unfold prepare at h
  split at h
  · cases h
  · rename_i m c _
    cases hi : instantiate m c ⟨s.space⟩ s.limits.maxMemoryPages with
    | error e => rw [hi] at h; cases h
    | ok i' =>
      rw [hi] at h
      cases h
      exact attached_of_instantiate hi

/-! ## The requests of a run are its own -/

/-- A machine that a run goes through makes the request. -/
def Makes (s : Sandbox) (i : Instance) (r : Request) : Prop :=
  ∃ m next, s.Visits i m ∧ m.step i.program = .printing r.memory r.offset r.length next

theorem makes_of_ofMachine {i : Instance} {r : Request} (fuel : Nat) : ∀ {m : Machine},
    s.Visits i m → r ∈ (Course.ofMachine (Machine.step i.program) fuel m).requests →
      s.Makes i r := by
  induction fuel with
  | zero => intro m _ hmem; cases hmem
  | succ fuel ih =>
    intro m hv hmem
    rw [Course.ofMachine] at hmem
    cases hstep : m.step i.program with
    | running next =>
      rw [hstep] at hmem
      exact ih (hv.ran hstep) hmem
    | finished store => rw [hstep] at hmem; cases hmem
    | trapped t => rw [hstep] at hmem; cases hmem
    | printing memory offset length next =>
      rw [hstep] at hmem
      obtain rfl | hmem := List.mem_cons.mp hmem
      · exact ⟨m, next, hv, hstep⟩
      · exact ih (hv.printed hstep) hmem

theorem makes_of_functionCourse {i : Instance} {store : Store} {index : Nat} {r : Request}
    (hvisits : ∀ m, i.machine? store index = some m → s.Visits i m)
    (hmem : r ∈ (s.functionCourse i store index).requests) : s.Makes i r := by
  unfold functionCourse at hmem
  split at hmem
  · cases hmem
  · rename_i m hm
    exact makes_of_ofMachine s.fuel (hvisits m hm) hmem

theorem makes_of_startCourse {i : Instance} {r : Request}
    (hmem : r ∈ (s.startCourse i).requests) : s.Makes i r := by
  unfold startCourse at hmem
  split at hmem
  · cases hmem
  · rename_i index hindex
    exact makes_of_functionCourse (fun m hm => .start hindex hm) hmem

theorem makes_of_entryCourse {i : Instance} {h h' : Host} {store : Store} {r : Request}
    (started : s.callStart i h = (h', .ok store))
    (hmem : r ∈ (s.entryCourse i store).requests) : s.Makes i r := by
  unfold entryCourse at hmem
  split at hmem
  · cases hmem
  · rename_i name hname
    split at hmem
    · cases hmem
    · rename_i index hindex
      exact makes_of_functionCourse (fun m hm => .entry started hname hindex hm) hmem

/-- **Every request of a run is made by a machine that the run goes through.** -/
theorem makes_of_mem_calls {r : Request} (hmem : r ∈ s.calls console artifact) :
    ∃ i, s.prepare artifact = .ok i ∧ s.Makes i r := by
  cases hp : s.prepare artifact with
  | error crash =>
    simp only [calls, course, hp] at hmem
    cases hmem
  | ok i =>
    refine ⟨i, rfl, ?_⟩
    simp only [calls, course, hp, Course.bind] at hmem
    cases hstart : (s.startCourse i).ending with
    | error crash =>
      simp only [hstart] at hmem
      exact makes_of_startCourse (Host.mem_of_mem_made _ hmem)
    | ok store =>
      simp only [hstart] at hmem
      cases hf : ((s.newHost console).serve (s.startCourse i).requests).fault with
      | some f =>
        rw [Host.made_append_of_refused _ _ rfl hf] at hmem
        exact makes_of_startCourse (Host.mem_of_mem_made _ hmem)
      | none =>
        rw [Host.made_append _ _ hf] at hmem
        obtain hmem | hmem := List.mem_append.mp hmem
        · exact makes_of_startCourse hmem
        · -- the entry point is called with what the start function left
          have started : s.callStart i (s.newHost console) =
              ((s.newHost console).serve (s.startCourse i).requests, .ok store) := by
            rw [callStart_eq rfl, Host.follow_of_served hf, hstart]
          exact makes_of_entryCourse started (Host.mem_of_mem_made _ hmem)

/-! ## What every crash says -/

variable (s console artifact)

/-- There is no entry point. This is noticed when the start function is done, and what that printed
stays. -/
def EntryMissing (message : String) : Prop :=
  ∃ i h store name e, s.prepare artifact = .ok i ∧
    s.callStart i (s.newHost console) = (h, .ok store) ∧
    s.entryPoint = some name ∧ i.entry name = .error e ∧
    message = (entryCrash name e).message ∧
    s.calls console artifact = (s.startCourse i).requests ∧
    (s.execute console artifact).console = h.console ∧
    h.console = console.afterAll (((s.startCourse i).requests.flatMap Request.lines).map .line)

/-- What the result of a run says about the run. -/
structure CausesTold : Prop where
  /-- The requests are those of the machines that the run goes through. -/
  made : ∀ r ∈ s.calls console artifact, ∃ i, s.prepare artifact = .ok i ∧ s.Makes i r
  /-- A request beyond the memory is reported as such, in the words of the host. -/
  memoryAccess : ∀ message,
    (s.execute console artifact).result = .error ⟨.memoryAccess, message⟩ ↔
      ∃ r ∈ s.calls console artifact, r.Outside ∧ message = r.boundsFault.message
  /-- So is a request that hits the limit on lines. -/
  outputLimit : ∀ message,
    (s.execute console artifact).result = .error ⟨.outputLimit, message⟩ ↔
      ∃ n, s.limits.maxOutputLines = some n ∧ HitsLimit n (s.calls console artifact) ∧
        message = (Fault.outputLimit n).message
  /-- Executed code fails by a refusal or by a trap. -/
  executing : ∀ h crash, s.FunctionFails console artifact h crash →
    s.lastHost console artifact = h ∧ (s.execute console artifact).result = .error crash ∧
      ((∃ f, h.fault = some f ∧ crash = refusalCrash f) ∨
        h.fault = none ∧ ∃ t : Trap, crash = ⟨.trap, t.message⟩)
  /-- Nothing is printed by a module that is not valid or cannot be linked. -/
  unprinted : ∀ crash, (s.execute console artifact).result = .error crash →
    crash.kind = .invalidArtifact ∨ crash.kind = .link →
      s.calls console artifact = [] ∧ (s.execute console artifact).console = console
  /-- A missing entry point is one that was looked for after the start function. -/
  missingEntry : ∀ message,
    (s.execute console artifact).result = .error ⟨.missingEntry, message⟩ →
      s.EntryMissing console artifact message
  succeeded : ∀ n, (s.execute console artifact).result = .ok n →
    (s.lastHost console artifact).fault = none
  /-- Whatever a run comes to, asking to print finds a memory. -/
  attached : ∀ i, s.prepare artifact = .ok i → ∀ m, s.Visits i m → ∀ stack pc,
    ∃ memory offset length next, m.store.memories[0]? = some memory ∧
      m.request stack pc = .printing memory offset length next

variable {s console artifact}

theorem calls_of_unready {crash : Crash} (h : s.prepare artifact = .error crash) :
    s.calls console artifact = [] ∧ (s.execute console artifact).console = console := by
  refine ⟨?_, by simp only [execute, h]⟩
  simp only [calls, course, h]
  rfl

theorem unprinted_of_kind {crash : Crash}
    (h : (s.execute console artifact).result = .error crash)
    (hk : crash.kind = .invalidArtifact ∨ crash.kind = .link) :
    s.calls console artifact = [] ∧ (s.execute console artifact).console = console := by
  obtain ⟨f, -, rfl⟩ | ⟨-, hends⟩ := crash_cases h
  · -- a refusal is of another kind
    cases f <;> obtain hk | hk := hk <;> cases hk
  · cases hends with
    | unready hp => exact calls_of_unready hp
    | trapped hp t => obtain hk | hk := hk <;> cases hk
    | noEntry hp started wanted missing => obtain hk | hk := hk <;> cases hk

/-- Without an entry point the course of a run is that of its start function. -/
theorem requests_of_noEntry {i : Instance} {store : Store} {name : String} {e : EntryError}
    (hp : s.prepare artifact = .ok i) (started : (s.startCourse i).ending = .ok store)
    (wanted : s.entryPoint = some name) (missing : i.entry name = .error e) :
    (s.course artifact).requests = (s.startCourse i).requests := by
  simp only [course, hp, Course.bind, started, entryCourse, wanted, missing, List.append_nil]

theorem entryMissing_of_result {message : String}
    (h : (s.execute console artifact).result = .error ⟨.missingEntry, message⟩) :
    s.EntryMissing console artifact message := by
  obtain ⟨f, -, hcrash⟩ | ⟨hf, hends⟩ := crash_cases h
  · cases f <;> cases hcrash
  · generalize hcrash : (⟨.missingEntry, message⟩ : Crash) = crash at hends
    cases hends with
    | unready hp =>
      obtain hk | hk | hk := kind_of_prepare hp <;> rw [← hcrash] at hk <;> cases hk
    | trapped hp t => cases hcrash
    | @noEntry i store name e hp started wanted missing =>
      have hrequests := requests_of_noEntry hp started wanted missing
      have hlast : s.lastHost console artifact =
          (s.newHost console).serve (s.startCourse i).requests := by
        rw [lastHost_eq, hrequests]
      have hstart : s.callStart i (s.newHost console) =
          (s.lastHost console artifact, .ok store) := by
        rw [hlast] at hf ⊢
        rw [callStart_eq rfl, Host.follow_of_served hf, started]
      refine ⟨i, _, store, name, e, hp, hstart, wanted, missing, ?_, ?_, console_execute, ?_⟩
      · exact congrArg Crash.message hcrash
      · rw [hlast] at hf
        rw [calls, hrequests, Host.made_of_served _ hf]
      · rw [console_of_served hf, hrequests]

/-- **Every crash tells its true cause.** -/
theorem causes_told (s : Sandbox) (console : Console) (artifact : List UInt8) :
    s.CausesTold console artifact where
  made _ := makes_of_mem_calls
  memoryAccess := result_memoryAccess_iff
  outputLimit := result_outputLimit_iff
  executing h crash hfails := by
    obtain ⟨hlast, hresult⟩ := hfails.result
    refine ⟨hlast, hresult, ?_⟩
    cases hf : h.fault with
    | none => exact .inr ⟨rfl, hfails.trapped hf⟩
    | some f =>
      rw [result_of_refused (hlast ▸ hf)] at hresult
      exact .inl ⟨f, rfl, (Except.error.inj hresult).symm⟩
  unprinted _ := unprinted_of_kind
  missingEntry _ := entryMissing_of_result
  succeeded n h := by
    cases hf : (s.lastHost console artifact).fault with
    | none => rfl
    | some f => rw [result_of_refused hf] at h; cases h
  attached i hp m hv stack pc :=
    Machine.request_of_attached (attached_of_visits (attached_of_prepare hp) hv) stack pc

end Sandbox

end Playground
