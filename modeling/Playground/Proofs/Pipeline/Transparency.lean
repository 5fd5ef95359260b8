import Playground.Proofs.Compiler.Calls
import Playground.Proofs.Pipeline.Turn

/-!
# The cache cannot be noticed

A pipeline is compared with a machine that has no cache and calls the compiler in every compile and
in every run.

* `Uncached` — the machine without a cache.
* `Turn.served` — what is left of a run that needs no compile.
* `Sim` — the simulation; `Sim.act` says that a command keeps it and `Sim.turn_eq` that it shows the
  same.
* `turn_eq_uncached` — for a compiler that is a function of the text, every command after any others
  shows what it shows without a cache, except that a run from the cache leaves out its compile.
-/

set_option autoImplicit false

namespace Playground

open Script

/-! ## The machine without a cache -/

/-- A pipeline without a cache. -/
structure Uncached (σ : Type) where
  text : String
  gateway : Gateway σ
  sandbox : Sandbox
  runner : Runner
  state : State

namespace Uncached

variable {σ : Type}

/-- The machine at rest. -/
def new (compiler : Compiler σ) (start : σ) (sandbox : Sandbox) (runner : Runner)
    (text : String) : Uncached σ :=
  ⟨text, .new compiler start, sandbox, runner, .idle⟩

/-- The turn of an action whose compile failed. -/
def failedTurn (u : Uncached σ) (reply : Reply) (d : Diagnostic) : Turn :=
  .ofAction reply d.lines u.state [.compiling, .failed (.diagnostic d)]

/-- The turn of a run whose compile gave an artifact. -/
def performedTurn (u : Uncached σ) (r : Performance) : Turn :=
  match r.result with
  | .ok n =>
    .ofAction (.ran (.ok ⟨true, n⟩)) (Pipeline.successLine :: r.lines) u.state
      [.compiling, .compiled, .running, .compiled]
  | .error crash =>
    .ofAction (.ran (.error (.crash crash)))
      (Pipeline.successLine :: r.lines ++ crash.consoleLines) u.state
      [.compiling, .compiled, .running, .failed (.crash crash)]

/-- What a command shows. Every action calls the compiler. -/
def turn (u : Uncached σ) : Command → Turn
  | .compile =>
    match (u.gateway.compile u.text).1 with
    | .ok a =>
      .ofAction (.compiled (.ok a.bytes)) [Pipeline.successLine] u.state [.compiling, .compiled]
    | .error d => u.failedTurn (.compiled (.error d)) d
  | .run =>
    match (u.gateway.compile u.text).1 with
    | .ok a => u.performedTurn (u.runner u.sandbox a.bytes)
    | .error d => u.failedTurn (.ran (.error (.diagnostic d))) d
  | .edit _ | .notifyEdit => .quiet u.state (if u.state = .compiled then [.idle] else [])
  | .setLimits _ => .quiet u.state []

/-- The machine after a command. -/
def act (u : Uncached σ) (c : Command) : Uncached σ :=
  let v := { u with state := (u.turn c).state }
  match c with
  | .compile | .run => { v with gateway := (u.gateway.compile u.text).2 }
  | .edit text => { v with text }
  | .notifyEdit => v
  | .setLimits limits => { v with sandbox := { u.sandbox with limits } }

/-- The machine after commands, one after another. -/
def actAll (u : Uncached σ) (cs : List Command) : Uncached σ := cs.foldl act u

variable {u : Uncached σ} {a : Artifact} {d : Diagnostic}

theorem turn_compile_of_ok (h : (u.gateway.compile u.text).1 = .ok a) :
    u.turn .compile = .ofAction (.compiled (.ok a.bytes)) [Pipeline.successLine] u.state
      [.compiling, .compiled] := by
  simp only [turn, h]

theorem turn_compile_of_error (h : (u.gateway.compile u.text).1 = .error d) :
    u.turn .compile = u.failedTurn (.compiled (.error d)) d := by
  simp only [turn, h]

theorem turn_run_of_ok (h : (u.gateway.compile u.text).1 = .ok a) :
    u.turn .run = u.performedTurn (u.runner u.sandbox a.bytes) := by
  simp only [turn, h]

theorem turn_run_of_error (h : (u.gateway.compile u.text).1 = .error d) :
    u.turn .run = u.failedTurn (.ran (.error (.diagnostic d))) d := by
  simp only [turn, h]

end Uncached

/-! ## Runs from the cache -/

namespace Turn

/-- The reply of a run that needed no compile. -/
def servedReply : Reply → Reply
  | .ran (.ok report) => .ran (.ok { report with compiled := false })
  | reply => reply

/-- Events without the line that reports a successful compile behind the clear. -/
def servedEvents : List Console.Event → List Console.Event
  | .cleared :: .line text :: rest =>
    if text = Pipeline.successLine then .cleared :: rest else .cleared :: .line text :: rest
  | events => events

/-- Changes that go round `compiling` and `compiled`. -/
def servedChanges : List Transition → List Transition
  | ⟨s, .compiling⟩ :: ⟨.compiling, .compiled⟩ :: ⟨.compiled, t⟩ :: rest => ⟨s, t⟩ :: rest
  | changes => changes

/-- What is left of a turn that needed no compile: it does not report one, does not show the line of
a successful one and does not enter the states of one. -/
def served (t : Turn) : Turn :=
  ⟨servedReply t.reply, t.state, servedEvents t.events, servedChanges t.changes⟩

end Turn

namespace Uncached

variable {σ : Type} (u : Uncached σ) (r : Performance)

theorem performedTurn_eq : u.performedTurn r =
    .ofAction (.ran (r.report true)) (Pipeline.successLine :: r.lines ++ crashLines r.result)
      u.state [.compiling, .compiled, .running, .afterRun r.result] := by
  unfold performedTurn
  split
  · rename_i n hr
    rw [Performance.report_of_ok true hr, hr, crashLines, List.append_nil]; rfl
  · rename_i crash hr
    rw [Performance.report_of_error true hr, hr]; rfl

/-- What is left of a run of an artifact if it needs no compile. -/
theorem performedTurn_served : (u.performedTurn r).served =
    .ofAction (.ran (r.report false)) (r.lines ++ crashLines r.result) u.state
      [.running, .afterRun r.result] := by
  rw [performedTurn_eq]
  cases hr : r.result with
  | ok n => rw [Performance.report_of_ok true hr, Performance.report_of_ok false hr]; rfl
  | error crash =>
    rw [Performance.report_of_error true hr, Performance.report_of_error false hr]; rfl

end Uncached

/-! ## The simulation -/

/-- The two machines stand alike, and an artifact in the cache has the bytes that the compiler would
give for the present text. -/
structure Sim {σ : Type} (f : String → Answer) (p : Pipeline σ) (u : Uncached σ) : Prop where
  text : p.text = u.text
  sandbox : p.sandbox = u.sandbox
  runner : p.runner = u.runner
  state : p.state = u.state
  cached : p.gateway.compiler.Computes f
  uncached : u.gateway.compiler.Computes f
  held : ∀ a, p.cache.held = some a → (f p.text).artifact = .ok a.bytes
  watched : p.Watched

namespace Sim

variable {σ : Type} {f : String → Answer} {p : Pipeline σ} {u : Uncached σ}

/-- Cache or not, the present text comes to the same bytes. -/
theorem bytes_of_lookup (h : Sim f p u) : p.lookup.1.map (·.bytes) = (f p.text).artifact := by
  cases hh : p.cache.held with
  | some a => rw [Pipeline.lookup_of_held hh, h.held a hh]; rfl
  | none => rw [Pipeline.lookup_of_empty hh]; exact h.cached.bytes_of_compile p.text

/-- What the machines get for the present text: artifacts of the same bytes or one diagnostic. -/
theorem answers (h : Sim f p u) :
    (∃ a b, p.lookup.1 = .ok a ∧ (u.gateway.compile u.text).1 = .ok b ∧ a.bytes = b.bytes) ∨
      ∃ d, p.lookup.1 = .error d ∧ (u.gateway.compile u.text).1 = .error d := by
  have hp := h.bytes_of_lookup
  have hu := h.uncached.bytes_of_compile u.text
  -- both are worth what the function answers, so they are errors together
  rw [← h.text, ← hp, h.text] at hu
  cases hl : p.lookup.1 with
  | ok a =>
    cases hg : (u.gateway.compile u.text).1 with
    | ok b =>
      rw [hl, hg] at hu
      exact .inl ⟨a, b, rfl, rfl, (Except.ok.inj hu).symm⟩
    | error d => rw [hl, hg] at hu; cases hu
  | error d =>
    cases hg : (u.gateway.compile u.text).1 with
    | ok b => rw [hl, hg] at hu; cases hu
    | error d' => rw [hl, hg] at hu; cases hu; exact .inr ⟨d, rfl, rfl⟩

/-! ### A command shows the same -/

theorem turn_compile_eq (h : Sim f p u) : p.turn .compile = u.turn .compile := by
  rw [Pipeline.turn_compile h.watched, h.state]
  rcases h.answers with ⟨a, b, hl, hg, hab⟩ | ⟨d, hl, hg⟩
  · rw [hl, Uncached.turn_compile_of_ok hg, ← hab]; rfl
  · rw [hl, Uncached.turn_compile_of_error hg]; rfl

theorem turn_run_eq_of_empty (h : Sim f p u) (hh : p.cache.held = none) :
    p.turn .run = u.turn .run := by
  rcases h.answers with ⟨a, b, hl, hg, hab⟩ | ⟨d, hl, hg⟩
  · rw [Pipeline.turn_run_of_compiled h.watched hh hl, Uncached.turn_run_of_ok hg, ← hab,
      ← h.runner, ← h.sandbox, h.state, Uncached.performedTurn_eq]
  · rw [Pipeline.turn_run_of_error h.watched hl, Uncached.turn_run_of_error hg, h.state]; rfl

/-- A run from the cache shows what a run that compiles shows, without the compile. -/
theorem turn_run_eq_of_held (h : Sim f p u) {a : Artifact} (hh : p.cache.held = some a) :
    p.turn .run = (u.turn .run).served := by
  have hl : p.lookup.1 = .ok a := by rw [Pipeline.lookup_of_held hh]
  rcases h.answers with ⟨a', b, hl', hg, hab⟩ | ⟨d, hl', -⟩
  · obtain rfl : a = a' := by rw [hl] at hl'; cases hl'; rfl
    rw [Pipeline.turn_run_of_held h.watched hh, Uncached.turn_run_of_ok hg, ← hab, ← h.runner,
      ← h.sandbox, h.state, Uncached.performedTurn_served]
  · rw [hl] at hl'; cases hl'

/-- **Every command shows the same**, except that a run from the cache leaves out its compile. -/
theorem turn_eq (h : Sim f p u) (c : Command) :
    p.turn c = if c = .run ∧ p.cache.held.isSome then (u.turn c).served else u.turn c := by
  cases c with
  | compile => simpa using h.turn_compile_eq
  | run =>
    cases hh : p.cache.held with
    | some a => simpa using h.turn_run_eq_of_held hh
    | none => simpa using h.turn_run_eq_of_empty hh
  | edit text => simp [Pipeline.turn_edit h.watched, Uncached.turn, h.state]
  | notifyEdit => simp [Pipeline.turn_notifyEdit h.watched, Uncached.turn, h.state]
  | setLimits limits => simp [Pipeline.turn_setLimits h.watched, Uncached.turn, h.state]

/-! ### A command keeps the machines alike -/

theorem state_act (h : Sim f p u) (c : Command) : (p.act c).state = (u.turn c).state := by
  have hturn : (p.act c).state = (p.turn c).state := rfl
  rw [hturn, h.turn_eq c]
  split <;> rfl

/-- The artifact that an action leaves in the cache. -/
theorem held_stored (h : Sim f p u) {a : Artifact} (ha : p.stored.cache.held = some a) :
    (f p.text).artifact = .ok a.bytes := by
  rw [← h.bytes_of_lookup]
  cases hl : p.lookup.1 with
  | ok b =>
    simp only [Pipeline.stored, hl, Except.toOption, Option.some.injEq] at ha
    rw [ha]; rfl
  | error d => simp [Pipeline.stored, hl, Except.toOption] at ha

theorem act_of_isAction (h : Sim f p u) {c : Command} (hc : c.isAction) (s : State)
    (hs : (p.act c).state = s) :
    Sim f (p.act c) { u with gateway := (u.gateway.compile u.text).2, state := s } := by
  obtain ⟨os, hos⟩ := p.act_of_isAction hc
  refine ⟨?_, ?_, ?_, hs, ?_, ?_, ?_, ?_⟩
  · rw [hos, Pipeline.recordAll_text]; exact h.text
  · rw [hos, Pipeline.recordAll_sandbox]; exact h.sandbox
  · rw [hos, Pipeline.recordAll_runner]; exact h.runner
  · rw [hos, Pipeline.recordAll_gateway, Pipeline.stored]
    cases hh : p.cache.held with
    | some a => rw [Pipeline.lookup_of_held hh]; exact h.cached
    | none => rw [Pipeline.lookup_of_empty hh, Gateway.compile_compiler]; exact h.cached
  · rw [Gateway.compile_compiler]; exact h.uncached
  · intro a ha
    rw [hos, Pipeline.recordAll_cache] at ha
    rw [hos, Pipeline.recordAll_text]
    exact h.held_stored ha
  · rw [hos]
    exact (h.watched.congr (q := p.stored) rfl rfl).recordAll os

/-- The edit event empties the cache, and nothing is to be said of its contents. -/
theorem edit (h : Sim f p u) (text : String) (s : State) (hs : (p.edit text).state = s) :
    Sim f (p.edit text) { u with text, state := s } := by
  have hedit := Pipeline.edit_eq p text
  refine ⟨?_, ?_, ?_, hs, ?_, h.uncached, ?_, ?_⟩
  · rw [hedit, Pipeline.recordAll_text]; rfl
  · rw [hedit, Pipeline.recordAll_sandbox]; exact h.sandbox
  · rw [hedit, Pipeline.recordAll_runner]; exact h.runner
  · rw [hedit, Pipeline.recordAll_gateway]; exact h.cached
  · intro a ha
    rw [hedit, Pipeline.recordAll_cache] at ha
    cases ha
  · rw [hedit]
    exact (h.watched.congr (q := (p.replaceText text).emptied) rfl rfl).recordAll _

/-- **A command keeps the machines alike.** -/
theorem act (h : Sim f p u) (c : Command) : Sim f (p.act c) (u.act c) := by
  have hs := h.state_act c
  cases c with
  | compile => exact h.act_of_isAction rfl _ hs
  | run => exact h.act_of_isAction rfl _ hs
  | edit text => exact h.edit text _ hs
  | notifyEdit =>
    -- the edit event alone is an edit that leaves the text as it is
    have hu : u.act .notifyEdit =
        { u with text := p.text, state := (u.turn .notifyEdit).state } := by rw [h.text]; rfl
    rw [hu]
    exact h.edit p.text _ hs
  | setLimits limits =>
    refine ⟨h.text, ?_, h.runner, hs, h.cached, h.uncached, h.held, h.watched.congr rfl rfl⟩
    exact congrArg (fun s : Sandbox => { s with limits }) h.sandbox

theorem actAll : ∀ (cs : List Command) {p : Pipeline σ} {u : Uncached σ}, Sim f p u →
    Sim f (p.actAll cs) (u.actAll cs)
  | [], _, _, h => h
  | c :: cs, _, _, h => actAll cs (h.act c)

theorem new {compiler : Compiler σ} (hf : compiler.Computes f) (console : Console) (start : σ)
    (sandbox : Sandbox) (runner : Runner) (text : String) :
    Sim f (Pipeline.onto (console.setRenderer .steady) compiler start sandbox runner text).observe
      (.new compiler start sandbox runner text) where
  text := rfl
  sandbox := rfl
  runner := rfl
  state := rfl
  cached := hf
  uncached := hf
  held := by intro a ha; cases ha
  watched := ⟨console.setRenderer_steady_patient, Nat.zero_lt_one⟩

end Sim

/-- **The cache cannot be noticed.** If the answers of the compiler are a function of the text,
then after any commands the next one shows what it shows without a cache: the same reply, state,
events and changes of state, except that a run from the cache leaves out its compile. -/
theorem turn_eq_uncached {σ : Type} {f : String → Answer} {compiler : Compiler σ}
    (hf : compiler.Computes f) (console : Console) (start : σ) (sandbox : Sandbox)
    (runner : Runner) (text : String) (before : List Command) (c : Command) :
    let p := (Pipeline.onto (console.setRenderer .steady) compiler start sandbox runner
      text).observe.actAll before
    let u := (Uncached.new compiler start sandbox runner text).actAll before
    p.turn c = if c = .run ∧ p.cache.held.isSome then (u.turn c).served else u.turn c :=
  ((Sim.new hf console start sandbox runner text).actAll before).turn_eq c

/-- A program that crashed once crashes again, this time from the cache. -/
theorem turn_eq_uncached_crash :
    let compiler : Compiler Unit := fun s _ => (.bytes [0], s)
    let runner : Runner := fun _ _ => ⟨["hello"], .error ⟨.trap, "unreachable"⟩⟩
    let sandbox : Sandbox := ⟨"env", none, ⟨none, none⟩, 9⟩
    let p := ((Pipeline.new compiler () sandbox runner none "main").setRenderer
      .steady).observe.actAll [.run]
    let u := (Uncached.new compiler () sandbox runner "main").actAll [.run]
    compiler.Computes (fun _ => .bytes [0]) ∧ p.cache.held.isSome ∧
      p.turn .run = (u.turn .run).served := by
  intro compiler runner sandbox p u
  have hf : compiler.Computes fun _ => .bytes [0] := fun _ _ => rfl
  have hnew : p = (Pipeline.onto ((Console.new none).setRenderer .steady) compiler () sandbox
      runner "main").observe.actAll [.run] := by
    have honto := Pipeline.new_eq_onto compiler () sandbox runner none "main"
    exact congrArg (fun q => (q.setRenderer .steady).observe.actAll [.run]) honto
  rw [hnew]
  exact ⟨hf, rfl, turn_eq_uncached hf (.new none) () sandbox runner "main" [.run] .run⟩

end Playground
