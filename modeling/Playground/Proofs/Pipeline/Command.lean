import Playground.Proofs.Pipeline.Script

/-!
# Commands to a pipeline

* `Command` — what the user of a pipeline can ask for; `Pipeline.act` carries it out.
* `Move` — a command, or a change of the world around the pipeline: the text in the editor is
  replaced without an edit event, or programs begin to behave in another way.
* `moveAll_preserves` — what every move keeps holds after a whole sequence.
* `Pipeline.onto` — a new pipeline that writes to a console of any contents.
* `Pipeline.script` — what a command shows; `act_eq` says that a command records its script, and
  `console_act`, `state_act`, `observers_act` and `journal_act` what that leaves.
-/

set_option autoImplicit false

namespace Playground

open Script

/-- What a pipeline can be asked for. -/
inductive Command where
  | compile
  | run
  | edit (text : String)
  | notifyEdit
  | setLimits (limits : Limits)
  deriving DecidableEq, Repr

namespace Command

/-- The two actions, compile and run. -/
def isAction : Command → Bool
  | compile | run => true
  | _ => false

/-- The commands that fire the edit event. -/
def isEdit : Command → Bool
  | edit _ | notifyEdit => true
  | _ => false

end Command

/-- What can happen to a pipeline. -/
inductive Move where
  | command (c : Command)
  /-- The text in the editor changes behind the back of the pipeline. -/
  | outside (text : String)
  /-- From now on programs behave in another way. -/
  | behave (runner : Runner)

namespace Pipeline

variable {σ : Type}

/-- The pipeline after a command. -/
def act (p : Pipeline σ) : Command → Pipeline σ
  | .compile => p.compile.2
  | .run => p.run.2
  | .edit text => p.edit text
  | .notifyEdit => p.notifyEdit
  | .setLimits limits => p.setLimits limits

/-- The pipeline after commands, one after another. -/
def actAll (p : Pipeline σ) (cs : List Command) : Pipeline σ := cs.foldl act p

/-- The pipeline after a move. -/
def move (p : Pipeline σ) : Move → Pipeline σ
  | .command c => p.act c
  | .outside text => p.replaceText text
  | .behave runner => { p with runner }

/-- The pipeline after moves, one after another. -/
def moveAll (p : Pipeline σ) (ms : List Move) : Pipeline σ := ms.foldl move p

/-- What every move keeps holds after any moves. -/
theorem moveAll_preserves {P : Pipeline σ → Prop} (hstep : ∀ p m, P p → P (p.move m)) :
    ∀ (ms : List Move) (p : Pipeline σ), P p → P (p.moveAll ms)
  | [], _, h => h
  | m :: ms, p, h => moveAll_preserves hstep ms (p.move m) (hstep p m h)

/-- A new pipeline that writes to a given console. -/
def onto (console : Console) (compiler : Compiler σ) (start : σ) (sandbox : Sandbox)
    (runner : Runner) (text : String) : Pipeline σ :=
  { new compiler start sandbox runner console.historyLimit text with console }

theorem new_eq_onto (compiler : Compiler σ) (start : σ) (sandbox : Sandbox) (runner : Runner)
    (limit : Option Nat) (text : String) :
    new compiler start sandbox runner limit text =
      onto (.new limit) compiler start sandbox runner text := rfl

/-! ## What single commands leave -/

theorem edit_eq (p : Pipeline σ) (text : String) :
    p.edit text = (p.replaceText text).emptied.recordAll (editing p.state) :=
  notifyEdit_eq (p.replaceText text)

/-- What a run shows once its text has been looked up. -/
def performing (p : Pipeline σ) : List Occurrence :=
  match p.lookup.1 with
  | .ok a => running p.launchState a (p.runner p.sandbox a.bytes)
  | .error _ => []

/-- What a command shows. -/
def script (p : Pipeline σ) : Command → List Occurrence
  | .compile => .console .cleared :: compiling p.state p.call p.lookup.1
  | .run => p.opening ++ p.performing
  | .edit _ | .notifyEdit => editing p.state
  | .setLimits _ => []

/-- The pipeline that a command leaves, before anything was shown. -/
def silently (p : Pipeline σ) : Command → Pipeline σ
  | .compile | .run => p.stored
  | .edit text => (p.replaceText text).emptied
  | .notifyEdit => p.emptied
  | .setLimits limits => p.setLimits limits

theorem performing_of_ok {p : Pipeline σ} {a : Artifact} (hl : p.lookup.1 = .ok a) :
    p.performing = running p.launchState a (p.runner p.sandbox a.bytes) := by
  simp only [performing, hl]

theorem performing_of_error {p : Pipeline σ} {d : Diagnostic} (hl : p.lookup.1 = .error d) :
    p.performing = [] := by
  simp only [performing, hl]

/-- **A command records its script.** -/
theorem act_eq (p : Pipeline σ) (c : Command) :
    p.act c = (p.silently c).recordAll (p.script c) := by
  cases c with
  | compile => exact congrArg Prod.snd (compile_eq p)
  | run =>
    cases hl : p.lookup.1 with
    | ok a =>
      have hrun : p.act .run = _ := congrArg Prod.snd (run_of_ok hl)
      rw [hrun, script, performing_of_ok hl]
      rfl
    | error d =>
      have hrun : p.act .run = _ := congrArg Prod.snd (run_of_error hl)
      rw [hrun, script, performing_of_error hl, List.append_nil,
        opening_of_empty (held_of_lookup_error hl), hl]
      rfl
  | edit text => exact edit_eq p text
  | notifyEdit => exact notifyEdit_eq p
  | setLimits limits => rfl

theorem console_act (p : Pipeline σ) (c : Command) :
    (p.act c).console = p.console.afterAll (events (p.script c)) := by
  have hq : (p.silently c).console = p.console := by cases c <;> rfl
  rw [act_eq, recordAll_console, hq]

theorem state_act (p : Pipeline σ) (c : Command) :
    (p.act c).state = endState p.state (p.script c) := by
  have hq : (p.silently c).state = p.state := by cases c <;> rfl
  rw [act_eq, recordAll_state, hq]

theorem observers_act (p : Pipeline σ) (c : Command) : (p.act c).observers =
    p.observers.map fun (told : Array Transition) => told ++ changes (p.script c) := by
  have hq : (p.silently c).observers = p.observers := by cases c <;> rfl
  rw [act_eq, recordAll_observers, hq]

theorem journal_act (p : Pipeline σ) (c : Command) :
    (p.act c).journal.toList = p.journal.toList ++ p.script c := by
  have hq : (p.silently c).journal = p.journal := by cases c <;> rfl
  rw [act_eq, recordAll_journal, hq]

end Pipeline

end Playground
