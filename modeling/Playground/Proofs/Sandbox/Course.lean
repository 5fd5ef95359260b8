import Playground.Proofs.Sandbox.Printing
import Playground.Sandbox.Run

/-!
# The course of a run

A program cannot see what becomes of the lines that it prints. Its course is therefore told without
a console and without a limit on lines: the requests that it makes as long as each is served, and
how it ends then.

* `Course` — requests and an ending; `Course.bind` is one course after another.
* `Host.follow` — what a host makes of a course: it serves the requests, and a refusal takes the
  place of the ending.
* `drive_eq`, `execute_eq` — driving a machine, and running an artifact, is following a course.
* `Delivery` — what a sequence of requests delivers; `execute_delivers` says that every sequence
  does, and that a run counts what its requests delivered.
-/

set_option autoImplicit false

namespace Playground.Sandbox

open Wasm

/-- What a program does if all of its requests are served, and how it ends. -/
structure Course (ε α : Type) where
  requests : List Request
  ending : Except ε α

namespace Course

variable {ε δ α β : Type}

/-- One course after another, unless the first fails. -/
def bind (c : Course ε α) (f : α → Course ε β) : Course ε β :=
  match c.ending with
  | .error e => ⟨c.requests, .error e⟩
  | .ok a => ⟨c.requests ++ (f a).requests, (f a).ending⟩

/-- The course with its failure told in another way. -/
def mapError (g : ε → δ) (c : Course ε α) : Course δ α := ⟨c.requests, c.ending.mapError g⟩

/-- The course of a machine with a budget of steps. -/
def ofMachine {σ : Type} (step : σ → Progress σ) : Nat → σ → Course Stop Store
  | 0, _ => ⟨[], .error (.trapped .outOfFuel)⟩
  | fuel + 1, m =>
    match step m with
    | .running next => ofMachine step fuel next
    | .finished store => ⟨[], .ok store⟩
    | .trapped t => ⟨[], .error (.trapped t)⟩
    | .printing memory offset length next =>
      let rest := ofMachine step fuel next
      ⟨⟨memory, offset, length⟩ :: rest.requests, rest.ending⟩

end Course

namespace Host

variable {ε δ α β : Type} {h : Host}

/-- What a host makes of a course: the ending comes only if every request is served. -/
def follow (h : Host) (refuse : Fault → ε) (c : Course ε α) : Host × Except ε α :=
  (h.serve c.requests,
    match (h.serve c.requests).fault with
    | some f => .error (refuse f)
    | none => c.ending)

theorem follow_of_refused {refuse : Fault → ε} {c : Course ε α} {f : Fault}
    (hf : (h.serve c.requests).fault = some f) :
    h.follow refuse c = (h.serve c.requests, .error (refuse f)) := by
  simp only [follow, hf]

theorem follow_of_served {refuse : Fault → ε} {c : Course ε α}
    (hf : (h.serve c.requests).fault = none) :
    h.follow refuse c = (h.serve c.requests, c.ending) := by
  simp only [follow, hf]

/-- A course without requests changes nothing. -/
theorem follow_of_silent (hf : h.fault = none) (refuse : Fault → ε) (ending : Except ε α) :
    h.follow refuse ⟨[], ending⟩ = (h, ending) :=
  follow_of_served (c := ⟨[], ending⟩) hf

/-- Only a host that served every request sees a course succeed. -/
theorem fault_of_follow_ok {refuse : Fault → ε} {c : Course ε α} {h' : Host} {a : α}
    (hc : h.follow refuse c = (h', .ok a)) : h'.fault = none := by
  cases hf : (h.serve c.requests).fault with
  | some f => rw [follow_of_refused hf] at hc; cases hc
  | none =>
    rw [follow_of_served hf, Prod.mk.injEq] at hc
    rw [← hc.1]
    exact hf

theorem follow_mapError (refuse : Fault → ε) (g : ε → δ) (c : Course ε α) :
    h.follow (g ∘ refuse) (c.mapError g) =
      ((h.follow refuse c).1, (h.follow refuse c).2.mapError g) := by
  have hr : (c.mapError g).requests = c.requests := rfl
  cases hf : (h.serve c.requests).fault with
  | some f => rw [follow_of_refused hf, follow_of_refused (by rw [hr]; exact hf)]; rfl
  | none => rw [follow_of_served hf, follow_of_served (by rw [hr]; exact hf)]; rfl

/-- **Following two courses one after another**: the second comes only if the first succeeds. -/
theorem follow_bind (hn : h.fault = none) (refuse : Fault → ε) (c : Course ε α)
    (f : α → Course ε β) : h.follow refuse (c.bind f) =
      match h.follow refuse c with
      | (h, .error e) => (h, .error e)
      | (h, .ok a) => h.follow refuse (f a) := by
  cases hc : c.ending with
  | error e =>
    have hb : c.bind f = ⟨c.requests, .error e⟩ := by simp only [Course.bind, hc]
    rw [hb]
    cases hf : (h.serve c.requests).fault with
    | some f => simp only [follow, hf]
    | none => simp only [follow, hf, hc]
  | ok a =>
    have hb : c.bind f = ⟨c.requests ++ (f a).requests, (f a).ending⟩ := by
      simp only [Course.bind, hc]
    rw [hb]
    cases hf : (h.serve c.requests).fault with
    | some f => simp only [follow, hf, serve_append_of_refused _ _ hn hf]
    | none => simp only [follow, hf, hc, serve_append _ _ hf]

end Host

/-! ## Driving a machine -/

variable {σ : Type} {step : σ → Progress σ}

/-- One request at the head of a course. -/
theorem Host.follow_cons {ε α : Type} {h : Host} (refuse : Fault → ε) (r : Request)
    (c : Course ε α) : h.follow refuse ⟨r :: c.requests, c.ending⟩ =
      match (h.answer r).fault with
      | some f => (h.answer r, .error (refuse f))
      | none => (h.answer r).follow refuse c := by
  cases hr : (h.answer r).fault with
  | some f => simp only [follow, serve_cons_of_refused hr, hr]
  | none => simp only [follow, serve_cons_of_served hr]

/-- **Driving a machine is following its course.** -/
theorem drive_eq (fuel : Nat) : ∀ {h : Host} (m : σ), h.fault = none →
    drive step fuel h m = h.follow .refused (.ofMachine step fuel m) := by
  induction fuel with
  | zero => intro h m hf; rw [Course.ofMachine, h.follow_of_silent hf]; rfl
  | succ fuel ih =>
    intro h m hf
    rw [drive, Course.ofMachine]
    cases step m with
    | running next => exact ih next hf
    | finished store => exact (h.follow_of_silent hf _ _).symm
    | trapped t => exact (h.follow_of_silent hf _ _).symm
    | printing memory offset length next =>
      rw [Host.follow_cons]
      have hprint : h.print memory offset length = h.answer ⟨memory, offset, length⟩ := rfl
      simp only [hprint]
      cases hr : (h.answer ⟨memory, offset, length⟩).fault with
      | some f => rfl
      -- a request that is served leaves a host without a fault, as the induction needs it
      | none => exact ih next hr

end Playground.Sandbox

namespace Playground

open Sandbox Wasm

namespace Sandbox

/-! ## Running an artifact -/

/-- The crash that a refusal amounts to. -/
def refusalCrash (f : Fault) : Crash := stopCrash (.refused f)

variable (s : Sandbox) (i : Instance)

/-- The course of a call of a function. -/
def functionCourse (store : Store) (index : Nat) : Course Crash Store :=
  match i.machine? store index with
  | none => ⟨[], .ok store⟩
  | some m => (Course.ofMachine (Machine.step i.program) s.fuel m).mapError stopCrash

/-- The course of the start function. -/
def startCourse : Course Crash Store :=
  match i.start with
  | none => ⟨[], .ok i.store⟩
  | some index => s.functionCourse i i.store index

/-- The course of the entry point. -/
def entryCourse (store : Store) : Course Crash Store :=
  match s.entryPoint with
  | none => ⟨[], .ok store⟩
  | some name =>
    match i.entry name with
    | .error e => ⟨[], .error (entryCrash name e)⟩
    | .ok index => s.functionCourse i store index

/-- The course of an artifact. -/
def course (artifact : List UInt8) : Course Crash Store :=
  match s.prepare artifact with
  | .error crash => ⟨[], .error crash⟩
  | .ok i => (s.startCourse i).bind (s.entryCourse i)

variable {s i} {h : Host}

theorem callFunction_eq (hf : h.fault = none) (store : Store) (index : Nat) :
    s.callFunction i h store index = h.follow refusalCrash (s.functionCourse i store index) := by
  cases hm : i.machine? store index with
  | none =>
    simp only [callFunction, functionCourse, hm]
    exact (h.follow_of_silent hf _ _).symm
  | some m =>
    simp only [callFunction, functionCourse, hm, drive_eq s.fuel m hf]
    exact (Host.follow_mapError .refused stopCrash _).symm

theorem callStart_eq (hf : h.fault = none) :
    s.callStart i h = h.follow refusalCrash (s.startCourse i) := by
  cases hs : i.start with
  | none =>
    simp only [callStart, startCourse, hs]
    exact (h.follow_of_silent hf _ _).symm
  | some index =>
    simp only [callStart, startCourse, hs]
    exact callFunction_eq hf _ _

theorem callEntry_eq (hf : h.fault = none) (store : Store) :
    s.callEntry i h store = h.follow refusalCrash (s.entryCourse i store) := by
  cases hn : s.entryPoint with
  | none =>
    simp only [callEntry, entryCourse, hn]
    exact (h.follow_of_silent hf _ _).symm
  | some name =>
    cases he : i.entry name with
    | error e =>
      simp only [callEntry, entryCourse, hn, he]
      exact (h.follow_of_silent hf _ _).symm
    | ok index =>
      simp only [callEntry, entryCourse, hn, he]
      exact callFunction_eq hf _ _

/-- **Running an artifact is following its course** with a host that has printed nothing. -/
theorem execute_eq (s : Sandbox) (console : Console) (artifact : List UInt8) :
    s.execute console artifact =
      let r := (Host.new console s.limits.maxOutputLines).follow refusalCrash (s.course artifact)
      ⟨r.1.console, r.2.map fun _ => r.1.written⟩ := by
  have hnew : (Host.new console s.limits.maxOutputLines).fault = none := rfl
  cases hp : s.prepare artifact with
  | error crash =>
    simp only [execute, course, hp, Host.follow_of_silent hnew]
    rfl
  | ok i =>
    simp only [execute, course, hp, callStart_eq hnew, Host.follow_bind hnew]
    cases hstart : (Host.new console s.limits.maxOutputLines).follow refusalCrash
        (s.startCourse i) with
    | mk h result =>
      cases result with
      | error crash => rfl
      | ok store =>
        -- the start function succeeded, so the host that it leaves refused nothing
        simp only [callEntry_eq (Host.fault_of_follow_ok hstart)]
        cases h.follow refusalCrash (s.entryCourse i store) with
        | mk h' result' => cases result' <;> rfl

/-! ## Exact delivery -/

/-- What requests deliver to a console under a limit on lines, if the first refusal ends the run. -/
structure Delivery (console : Console) (limit : Option Nat) (rs : List Request) : Prop where
  /-- Lines come in order and each once, from the start of what is asked for, and are counted. -/
  delivered :
    let h := (Host.new console limit).serve rs
    let asked := ((Host.new console limit).made rs).flatMap Request.lines
    ∃ lines, lines <+: asked ∧ h.console = console.afterAll (lines.map .line) ∧
      h.written = lines.length ∧ (h.fault = none → lines = asked)
  within : ∀ n, limit = some n → ((Host.new console limit).serve rs).written ≤ n
  /-- A further request inside the memory is refused exactly if its lines go above the limit. -/
  refused_iff : ∀ (r : Request) (bytes : List UInt8), r.content = .ok bytes →
    let h := (Host.new console limit).serve rs
    h.fault = none →
      ((h.answer r).fault.isSome ↔ ∃ n, limit = some n ∧ n < h.written + r.lines.length)
  /-- It is then refused for the limit, after as many lines as the limit admits. -/
  refusal : ∀ (r : Request) (bytes : List UInt8) (f : Fault), r.content = .ok bytes →
    let h := (Host.new console limit).serve rs
    h.fault = none → (h.answer r).fault = some f →
      ∃ (n : Nat) (lines : List String), limit = some n ∧ f = .outputLimit n ∧
        (h.answer r).written = n ∧ lines = ((rs ++ [r]).flatMap Request.lines).take n ∧
        lines.length = n ∧ (h.answer r).console = console.afterAll (lines.map .line)

theorem delivery (console : Console) (limit : Option Nat) (rs : List Request) :
    Delivery console limit rs := by
  obtain ⟨lines, hpre, hp, hall⟩ := (Host.printed_new console limit).serve rs rfl
  rw [List.nil_append] at hp
  refine ⟨⟨lines, hpre, hp.console, hp.written, hall⟩, ?_, ?_, ?_⟩
  · intro n hn
    rw [hp.written]
    exact hp.within n hn
  · intro r bytes hr h hf
    exact hp.refused_iff hf hr
  · intro r bytes f hr h hf hfault
    obtain ⟨n, hlimit, hkind, hn⟩ := hp.refusal hf hr hfault
    obtain ⟨more, hmore, hp', -⟩ := hp.answer hf r
    have hlen : (lines ++ more).length = n := by rw [← hp'.written, hn]
    have hpre' : lines ++ more <+: (rs ++ [r]).flatMap Request.lines := by
      rw [List.flatMap_append, List.flatMap_singleton, hall hf, Host.made_of_served _ hf]
      exact (List.prefix_append_right_inj _).mpr hmore
    refine ⟨n, lines ++ more, hlimit, hkind, hn, ?_, hlen, hp'.console⟩
    rw [List.prefix_iff_eq_take.mp hpre', hlen]

/-- **Exact delivery under the limit.** Whatever requests come, they deliver the first of the lines
that they ask for and no more than the limit. A run delivers what its requests do; a refusal is its
crash, and without one the lines of all requests are counted. -/
theorem execute_delivers (s : Sandbox) (console : Console) (artifact : List UInt8) :
    (∀ rs, Delivery console s.limits.maxOutputLines rs) ∧
      let rs := (s.course artifact).requests
      let h := (Host.new console s.limits.maxOutputLines).serve rs
      let e := s.execute console artifact
      e.console = h.console ∧
        (∀ f, h.fault = some f → e.result = .error (refusalCrash f)) ∧
        (h.fault = none → e.result =
          (s.course artifact).ending.map fun _ => (rs.flatMap Request.lines).length) := by
  refine ⟨delivery console _, ?_⟩
  intro rs h e
  have he : e = _ := execute_eq s console artifact
  refine ⟨by rw [he]; rfl, ?_, ?_⟩
  · intro f hf
    rw [he, Host.follow_of_refused hf]; rfl
  · intro hf
    obtain ⟨lines, -, -, hwritten, hall⟩ := (delivery console s.limits.maxOutputLines rs).delivered
    rw [he, Host.follow_of_served hf, ← Host.made_of_served _ hf, ← hall hf, ← hwritten]

end Sandbox

end Playground
