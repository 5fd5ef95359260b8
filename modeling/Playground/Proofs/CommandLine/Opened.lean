import Playground.CommandLine.Command
import Playground.Proofs.Pipeline.Transcript
import Playground.Proofs.Pipeline.Turn

/-!
# Pipelines on a terminal

The commands that compile or run open a pipeline for one source file and attach a terminal to its
console. What they print is what the terminal is told.

* `terminalText_append` — events one after another are shown one after another.
* `openPipeline_eq_ok_iff` — what an opened pipeline is; `Opened` says what it has seen so far.
* `heard_act` — what a terminal is told of a command.
* `CommandLine.ended` — what a command leaves; `run_of_act` says that it is what arguments come to.
-/

set_option autoImplicit false

namespace Playground

open Files Compiler Script

/-! ## What a terminal shows -/

section

variable (separator : Bool) (es fs : List Console.Event)

theorem terminalText_append :
    terminalText separator (es ++ fs) = terminalText separator es ++ terminalText separator fs := by
  rw [terminalText, List.map_append, String.join_append]
  rfl

variable {separator es}

/-- A line is always shown, if only as an empty one. -/
theorem terminalText_ne_empty {text : String} (h : .line text ∈ es) :
    terminalText separator es ≠ "" := by
  obtain ⟨before, behind, rfl⟩ := List.append_of_mem h
  have hline : terminalText separator (.line text :: behind) =
      text ++ "\n" ++ terminalText separator behind := by
    rw [terminalText, List.map_cons, String.join_cons]
    rfl
  rw [terminalText_append, hline]
  intro hempty
  obtain ⟨-, hrest⟩ := String.append_eq_empty_iff.mp hempty
  obtain ⟨hshown, -⟩ := String.append_eq_empty_iff.mp hrest
  obtain ⟨-, hfeed⟩ := String.append_eq_empty_iff.mp hshown
  exact absurd hfeed (by decide)

end

/-! ## Opened pipelines -/

/-- The compiler of a configuration, if its program is found. -/
def Surroundings.compiler (s : Surroundings) (c : CompilerConfig) :
    Except ResolveError External :=
  External.prepare s.view s.searchPath s.launcher s.environment c

section

variable {s : Surroundings} {config : Config} {path : String} {p : Pipeline Tree}

theorem openPipeline_of_unreadable {f : ErrorReport}
    (h : readSource s.tree s.here path = .error f) :
    openPipeline s config path = .error f := by
  rw [openPipeline, h]
  rfl

theorem openPipeline_of_invalid {text : String} {v : Config.Violation}
    (h : readSource s.tree s.here path = .ok text) (hc : config.validate = .error v) :
    openPipeline s config path = .error (.ofInit (.invalid v)) := by
  rw [openPipeline, h]
  simp only [Pipeline.ofConfig, hc]
  rfl

theorem openPipeline_of_valid {text : String} (h : readSource s.tree s.here path = .ok text)
    (hc : config.validate = .ok ()) :
    openPipeline s config path =
      match s.compiler config.compiler with
      | .error e => .error (.ofInit (.noCompiler e))
      | .ok x =>
        .ok ((Pipeline.withCompiler x.compiler s.tree config s.fuel text).setRenderer .steady) := by
  rw [openPipeline, h]
  simp only [Pipeline.ofConfig, hc]
  rw [Surroundings.compiler]
  cases External.prepare s.view s.searchPath s.launcher s.environment config.compiler <;> rfl

/-- **What an opened pipeline is.** -/
theorem openPipeline_eq_ok_iff : openPipeline s config path = .ok p ↔
    ∃ text x, readSource s.tree s.here path = .ok text ∧ config.validate = .ok () ∧
      s.compiler config.compiler = .ok x ∧
      p = (Pipeline.withCompiler x.compiler s.tree config s.fuel text).setRenderer .steady := by
  cases ht : readSource s.tree s.here path with
  | error f =>
    rw [openPipeline_of_unreadable ht]
    exact ⟨nofun, fun ⟨_, _, h, _⟩ => nomatch h⟩
  | ok text =>
    cases hc : config.validate with
    | error v =>
      rw [openPipeline_of_invalid ht hc]
      exact ⟨nofun, fun ⟨_, _, _, h, _⟩ => nomatch h⟩
    | ok u =>
      rw [openPipeline_of_valid ht hc]
      cases hx : s.compiler config.compiler with
      | error e => exact ⟨nofun, fun ⟨_, _, _, _, h, _⟩ => nomatch h⟩
      | ok x =>
        constructor
        · intro h
          exact ⟨text, x, rfl, rfl, rfl, (Except.ok.inj h).symm⟩
        · rintro ⟨_, _, h, -, h', rfl⟩
          cases h
          cases h'
          rfl

/-- A pipeline that has compiled nothing and shown nothing, with a terminal at its console. -/
structure Pipeline.Opened (p : Pipeline Tree) : Prop where
  held : p.cache.held = none
  heard : p.console.heard = []
  patient : p.console.Patient

theorem opened_of_openPipeline (h : openPipeline s config path = .ok p) : p.Opened := by
  obtain ⟨text, x, -, -, -, rfl⟩ := openPipeline_eq_ok_iff.mp h
  exact ⟨rfl, rfl, Console.setRenderer_steady_patient _⟩

end

/-! ## What a terminal is told -/

namespace Pipeline

variable {σ : Type} {p : Pipeline σ}

theorem patient_act (h : p.console.Patient) (c : Command) : (p.act c).console.Patient := by
  rw [console_act]
  exact h.afterAll _

/-- **A terminal is told the console events of a command.** -/
theorem heard_act (h : p.console.Patient) (c : Command) :
    (p.act c).console.heard = p.console.heard ++ events (p.script c) := by
  rw [console_act, Console.heard_afterAll h]

theorem events_turn (h : p.console.Patient) (c : Command) :
    (p.turn c).events = events (p.script c) := by
  rw [turn, heard_act h, List.drop_left]

end Pipeline

/-! ## What commands leave -/

namespace CommandLine

/-- What a command leaves; an error leaves the files as they were. -/
def ended (s : Surroundings) : Except ErrorReport Finish → Finish
  | .ok f => f
  | .error f => ⟨1, "", f.render, s.tree⟩

/-- Arguments that ask for something leave what it leaves. -/
theorem run_of_act {s : Surroundings} {input : String} {arguments : List String}
    {path : Option String} {action : Arguments.Action} {config : Config}
    (hparse : Arguments.parse arguments = some (.act path action))
    (hconfig : configuration s path = .ok config) :
    run s input arguments = ended s (perform s input config action) := by
  have hbind : (configuration s path >>= fun config => perform s input config action) =
      perform s input config action := by
    rw [hconfig]
    rfl
  simp only [run, hparse, hbind]
  cases perform s input config action <;> rfl

end CommandLine

end Playground
