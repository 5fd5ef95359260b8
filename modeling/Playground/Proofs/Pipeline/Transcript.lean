import Playground.Proofs.Pipeline.Command
import Playground.Proofs.Sandbox.Cut

/-!
# What an action leaves on the console

An action clears the console and then writes: the report of a compile, the lines of the program and
the report of a crash, each only if it comes to that.

* `Console.Shows` — one clear and some lines, told to the renderer and kept as far as the history
  limit admits.
* `programLines`, `crashReport` — what the program prints, and what is said of its crash.
* `events_compile`, `events_run` — the console events of the two actions.
* `shows_transcript` — what the console shows of an action in any pipeline, and that nothing else
  touches it.
-/

set_option autoImplicit false

namespace Playground

open Script

/-- The console `c'` comes out of `c` by one clear and these lines. -/
structure Console.Shows (c c' : Console) (lines : List String) : Prop where
  /-- The renderer, if there is one, was told of the clear and of the lines, and of nothing else. -/
  told : c'.renderer.map Renderer.received =
    c.renderer.map fun r => r.received ++ .cleared :: lines.map .line
  /-- The console keeps the last of the lines, as many as its history limit admits. -/
  kept : c'.lines = Console.kept c.historyLimit lines
  limit : c'.historyLimit = c.historyLimit

theorem Console.Calm.shows {c : Console} (h : c.Calm) (lines : List String) :
    c.Shows (c.afterAll (.cleared :: lines.map .line)) lines := by
  refine ⟨?_, h.lines_afterAll_cleared lines, historyLimit_afterAll _ c⟩
  rw [renderer_afterAll, Option.map_map]
  refine congrArg (c.renderer.map ·) ?_
  funext r
  exact r.received_tellAll _

/-- What is said of the crash that a run came to, if it came to one. -/
def crashReport : Except Failure RunReport → List String
  | .error (.crash crash) => crash.consoleLines
  | _ => []

theorem crashReport_report (r : Performance) (compiled : Bool) :
    crashReport (r.report compiled) = crashLines r.result := by
  cases hr : r.result with
  | ok n => rw [Performance.report_of_ok compiled hr]; rfl
  | error crash => rw [Performance.report_of_error compiled hr]; rfl

namespace Pipeline

variable {σ : Type} {p : Pipeline σ}

/-- The lines that the program prints in a run; none if the text does not compile. -/
def programLines (p : Pipeline σ) : List String :=
  match p.compile.1 with
  | .ok a => (p.runner p.sandbox a.bytes).lines
  | .error _ => []

theorem programLines_of_ok {a : Artifact} (hl : p.lookup.1 = .ok a) :
    p.programLines = (p.runner p.sandbox a.bytes).lines := by
  simp only [programLines, compile_eq, hl]

theorem programLines_of_error {d : Diagnostic} (hl : p.lookup.1 = .error d) :
    p.programLines = [] := by
  simp only [programLines, compile_eq, hl]

/-- The lines of a run: the report of a compile if the cache is empty, then what the program
prints, then what is said of its crash. -/
def runLines (p : Pipeline σ) : List String :=
  (if p.cache.held.isNone then compileLines p.compile.1 else []) ++ p.programLines ++
    crashReport p.run.1

theorem events_compile (p : Pipeline σ) :
    events (p.script .compile) = .cleared :: (compileLines p.compile.1).map .line := by
  rw [compile_eq]
  simp [script, events_compiling]

theorem events_run (p : Pipeline σ) :
    events (p.script .run) = .cleared :: p.runLines.map .line := by
  rw [script, events_append, runLines]
  cases hl : p.lookup.1 with
  | error d =>
    have hh := held_of_lookup_error hl
    have hcompile := p.events_compile
    rw [opening_of_empty hh, performing_of_error hl, programLines_of_error hl, run_of_error hl,
      hh]
    rw [script] at hcompile
    simp [hcompile, crashReport]
  | ok a =>
    rw [performing_of_ok hl, programLines_of_ok hl, run_of_ok hl, events_running,
      crashReport_report]
    cases hh : p.cache.held with
    | some b =>
      rw [opening_of_held hh]
      simp
    | none =>
      have hcompile := p.events_compile
      rw [script] at hcompile
      rw [opening_of_empty hh, hcompile]
      simp

theorem events_editing (s : State) : events (editing s) = [] := by
  unfold editing
  split <;> simp

/-- In the sandbox, what a program prints is what running it writes to any console, and its crash is
the one that the run comes to. -/
theorem programLines_eq_printed {a : Artifact} (hrunner : p.runner = Sandbox.perform)
    (hl : p.lookup.1 = .ok a) : p.programLines = p.sandbox.printed a.bytes := by
  rw [programLines_of_ok hl, hrunner]; rfl

theorem run_error_crash_iff {a : Artifact} (hl : p.lookup.1 = .ok a) (crash : Crash) :
    p.run.1 = .error (.crash crash) ↔ (p.runner p.sandbox a.bytes).result = .error crash := by
  rw [run_of_ok hl]
  cases hr : (p.runner p.sandbox a.bytes).result with
  | ok n => rw [Performance.report_of_ok _ hr]; simp
  | error crash' => rw [Performance.report_of_error _ hr]; simp

/-- **What the console shows of an action.** In every pipeline, whatever its console showed before,
an action clears the console and writes exactly its lines: a compile its report; a run the report
of a compile if the cache is empty, then what the program prints, then what is said of its crash.
With the sandbox to run programs, what a program prints is what executing it writes to any console,
and the crash reported is the one that this comes to. Nothing but the two actions touches the
console. -/
theorem shows_transcript (p : Pipeline σ) (hp : p.console.Calm) :
    p.console.Shows p.compile.2.console (compileLines p.compile.1) ∧
    p.console.Shows p.run.2.console p.runLines ∧
    (∀ (a : Artifact) (c : Console), p.runner = Sandbox.perform → p.compile.1 = .ok a →
      let e := p.sandbox.execute c a.bytes
      e.console = c.afterAll (p.programLines.map .line) ∧
        ∀ crash, p.run.1 = .error (.crash crash) ↔ e.result = .error crash) ∧
    ∀ c : Command, c.isAction = false → (p.act c).console = p.console := by
  refine ⟨?_, ?_, ?_, ?_⟩
  · have hcompile : p.compile.2.console = _ := p.console_act .compile
    rw [hcompile, events_compile]
    exact hp.shows _
  · have hrun : p.run.2.console = _ := p.console_act .run
    rw [hrun, events_run]
    exact hp.shows _
  · intro a c hrunner ha
    have hl : p.lookup.1 = .ok a := by rw [compile_eq] at ha; exact ha
    intro e
    have he : e = ⟨c.afterAll ((p.sandbox.printed a.bytes).map .line),
        (p.sandbox.execute (.new none) a.bytes).result⟩ :=
      p.sandbox.execute_eq_on a.bytes c (.new none)
    refine ⟨?_, ?_⟩
    · rw [he, programLines_eq_printed hrunner hl]
    · intro crash
      rw [he, run_error_crash_iff hl, hrunner]
      rfl
  · intro c hc
    rw [console_act]
    cases c with
    | compile => cases hc
    | run => cases hc
    | edit text => rw [script, events_editing]; rfl
    | notifyEdit => rw [script, events_editing]; rfl
    | setLimits limits => rfl

/-- A program that crashes after two lines: of the five lines that its first run writes, a console
with room for three keeps the last. -/
theorem shows_transcript_crash :
    let compiler : Compiler Unit := fun s _ => (.bytes [0], s)
    let runner : Runner := fun _ _ => ⟨["one", "two"], .error ⟨.trap, "unreachable"⟩⟩
    let p := onto ((Console.new (some 3)).setRenderer .steady) compiler ()
      ⟨"env", none, .unlimited, 9⟩ runner "main"
    p.console.Calm ∧
      p.runLines = [successLine, "one", "two", Crash.header, "unreachable"] ∧
      p.run.2.console.lines = ["two", Crash.header, "unreachable"] := by
  intro compiler runner p
  have hcalm : p.console.Calm := Console.setRenderer_steady_calm _
  have hlines : p.runLines = [successLine, "one", "two", Crash.header, "unreachable"] := by
    decide +kernel
  obtain ⟨-, hrun, -⟩ := shows_transcript p hcalm
  refine ⟨hcalm, hlines, ?_⟩
  rw [hrun.kept, hlines]
  rfl

end Pipeline

end Playground
