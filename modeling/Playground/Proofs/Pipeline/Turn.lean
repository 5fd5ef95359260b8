import Playground.Proofs.Pipeline.Command

/-!
# Turns

What a command shows to those who watch a pipeline.

* `Turn` — the reply, the state that is left, what the renderer takes in and what an observer is
  told.
* `Watched` — a pipeline with a renderer that never gives up and an observer; `Watched.recordAll`
  says that it stays one.
* `turn_of_script` — a turn is read off the script of the command.
* `turn_compile`, `turn_run_of_held`, `turn_run_of_compiled`, `turn_run_of_error`, `turn_edit`,
  `turn_notifyEdit`, `turn_setLimits` — the turns of all commands.
-/

set_option autoImplicit false

namespace Playground

open Script

/-! ## What a command shows -/

/-- The reply to a command. Of an artifact only the bytes are told. -/
inductive Reply where
  | compiled (result : Except Diagnostic (List UInt8))
  | ran (result : Except Failure RunReport)
  | done

/-- What a command shows. -/
structure Turn where
  reply : Reply
  /-- The state in which the command leaves the pipeline. -/
  state : State
  /-- What the renderer takes in. -/
  events : List Console.Event
  /-- What an observer is told. -/
  changes : List Transition

/-- The changes on the way through states. -/
def path : State → List State → List Transition
  | _, [] => []
  | s, t :: ts => ⟨s, t⟩ :: path t ts

/-- The turn of an action that starts in state `s`, enters states and shows lines. -/
def Turn.ofAction (reply : Reply) (lines : List String) (s : State) (entered : List State) :
    Turn where
  reply
  state := entered.getLastD s
  events := .cleared :: lines.map .line
  changes := path s entered

/-- The turn of a command that shows no lines and may enter a state. -/
def Turn.quiet (s : State) (entered : List State) : Turn :=
  ⟨.done, entered.getLastD s, [], path s entered⟩

namespace Pipeline

variable {σ : Type}

/-- The reply to a command. -/
def reply (p : Pipeline σ) : Command → Reply
  | .compile => .compiled (p.compile.1.map (·.bytes))
  | .run => .ran p.run.1
  | _ => .done

/-- What the first observer was told. -/
def told (p : Pipeline σ) : List Transition := (p.observers[0]?.getD #[]).toList

/-- What a command shows. -/
def turn (p : Pipeline σ) (c : Command) : Turn where
  reply := p.reply c
  state := (p.act c).state
  events := (p.act c).console.heard.drop p.console.heard.length
  changes := (p.act c).told.drop p.told.length

end Pipeline

/-! ## Turns from scripts -/

namespace Pipeline

variable {σ : Type} {p q : Pipeline σ}

/-- Someone listens: a renderer that never gives up, and an observer. -/
structure Watched (p : Pipeline σ) : Prop where
  renderer : p.console.Patient
  observer : 0 < p.observers.size

/-- Only console and observers matter. -/
theorem Watched.congr (h : p.Watched) (hc : q.console = p.console)
    (ho : q.observers = p.observers) : q.Watched :=
  ⟨by rw [hc]; exact h.renderer, by rw [ho]; exact h.observer⟩

theorem Watched.recordAll (h : p.Watched) (os : List Occurrence) : (p.recordAll os).Watched :=
  ⟨by rw [recordAll_console]; exact h.renderer.afterAll _,
    by rw [recordAll_observers, Array.size_map]; exact h.observer⟩

theorem told_recordAll (h : 0 < p.observers.size) (os : List Occurrence) :
    (p.recordAll os).told = p.told ++ changes os := by
  simp [told, h]

/-- A command shows its script. -/
theorem turn_of_script (hw : p.Watched) {c : Command} {os : List Occurrence}
    (hact : p.act c = q.recordAll os) (hs : q.state = p.state) (hc : q.console = p.console)
    (ho : q.observers = p.observers) :
    p.turn c = ⟨p.reply c, endState p.state os, events os, changes os⟩ := by
  have hheard : (p.act c).console.heard = p.console.heard ++ events os := by
    rw [hact, recordAll_console, hc, Console.heard_afterAll hw.renderer]
  have htold : (p.act c).told = p.told ++ changes os := by
    have hq : q.told = p.told := by rw [told, told, ho]
    rw [hact, told_recordAll (by rw [ho]; exact hw.observer), hq]
  have hstate : (p.act c).state = endState p.state os := by rw [hact, recordAll_state, hs]
  simp only [turn, hheard, htold, hstate, List.drop_left]

theorem turn_compile (hw : p.Watched) :
    p.turn .compile = .ofAction (.compiled (p.lookup.1.map (·.bytes))) (compileLines p.lookup.1)
      p.state [.compiling, .afterCompile p.lookup.1] := by
  have hact : p.act .compile = _ := congrArg Prod.snd (compile_eq p)
  rw [turn_of_script hw hact rfl rfl rfl, reply, compile_eq]
  simp [endState, events_compiling, changes_compiling, Turn.ofAction, path]

theorem turn_run_of_error (hw : p.Watched) {d : Diagnostic} (hl : p.lookup.1 = .error d) :
    p.turn .run = .ofAction (.ran (.error (.diagnostic d))) d.lines p.state
      [.compiling, .failed (.diagnostic d)] := by
  have hact : p.act .run = _ := congrArg Prod.snd (run_of_error hl)
  rw [turn_of_script hw hact rfl rfl rfl, reply, run_of_error hl]
  simp [endState, events_compiling, changes_compiling, Turn.ofAction, path, compileLines,
    State.afterCompile]

theorem turn_run_of_held (hw : p.Watched) {a : Artifact} (h : p.cache.held = some a) :
    p.turn .run =
      let r := p.runner p.sandbox a.bytes
      .ofAction (.ran (r.report false)) (r.lines ++ crashLines r.result) p.state
        [.running, .afterRun r.result] := by
  have hl : p.lookup.1 = .ok a := by rw [lookup_of_held h]
  have hact : p.act .run = _ := congrArg Prod.snd (run_of_ok hl)
  rw [turn_of_script hw hact rfl rfl rfl, reply, run_of_ok hl, opening_of_held h, launchState, h]
  simp [endState, events_running, changes_running, Turn.ofAction, path]

theorem turn_run_of_compiled (hw : p.Watched) {a : Artifact} (h : p.cache.held = none)
    (hl : p.lookup.1 = .ok a) :
    p.turn .run =
      let r := p.runner p.sandbox a.bytes
      .ofAction (.ran (r.report true)) (successLine :: r.lines ++ crashLines r.result) p.state
        [.compiling, .compiled, .running, .afterRun r.result] := by
  have hact : p.act .run = _ := congrArg Prod.snd (run_of_ok hl)
  rw [turn_of_script hw hact rfl rfl rfl, reply, run_of_ok hl, opening_of_empty h, hl, launchState,
    h]
  simp [endState, events_compiling, changes_compiling, events_running, changes_running,
    Turn.ofAction, path, compileLines, State.afterCompile]

theorem turn_notifyEdit (hw : p.Watched) :
    p.turn .notifyEdit = .quiet p.state (if p.state = .compiled then [.idle] else []) := by
  have hact : p.act .notifyEdit = _ := notifyEdit_eq p
  rw [turn_of_script hw hact rfl rfl rfl]
  by_cases h : p.state = .compiled <;> simp [editing, h, endState, Turn.quiet, path, reply]

theorem turn_edit (hw : p.Watched) (text : String) :
    p.turn (.edit text) = .quiet p.state (if p.state = .compiled then [.idle] else []) := by
  have hact : p.act (.edit text) = _ := edit_eq p text
  rw [turn_of_script hw hact rfl rfl rfl]
  by_cases h : p.state = .compiled <;> simp [editing, h, endState, Turn.quiet, path, reply]

theorem turn_setLimits (hw : p.Watched) (limits : Limits) :
    p.turn (.setLimits limits) = .quiet p.state [] := by
  have hact : p.act (.setLimits limits) = (p.setLimits limits).recordAll [] := rfl
  rw [turn_of_script hw hact rfl rfl rfl]
  simp [endState, Turn.quiet, path, reply]

/-- An action looks up the artifact and shows a script. -/
theorem act_of_isAction (p : Pipeline σ) {c : Command} (hc : c.isAction) :
    ∃ os, p.act c = p.stored.recordAll os := by
  cases c with
  | compile => exact ⟨_, congrArg Prod.snd (compile_eq p)⟩
  | run =>
    cases hl : p.lookup.1 with
    | ok a => exact ⟨_, congrArg Prod.snd (run_of_ok hl)⟩
    | error d => exact ⟨_, congrArg Prod.snd (run_of_error hl)⟩
  | edit text => cases hc
  | notifyEdit => cases hc
  | setLimits limits => cases hc

end Pipeline

end Playground
