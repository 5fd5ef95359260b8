import Playground.Proofs.Compiler.Calls
import Playground.Proofs.Pipeline.Command

/-!
# What the journal tells

The journal of a pipeline tells all that happened in one order. This file says that it leaves nothing
out:

* `calls` — the number of calls to the compiler in a list of occurrences.
* `calls_script`, `invocations_act` — a command calls the compiler once if it is an action that
  finds the cache empty, and not at all otherwise.
* `Recounted` — console, state and number of calls are those of the journal. It holds after any moves
  (`recounted_moveAll`).
-/

set_option autoImplicit false

namespace Playground

open Script

namespace Occurrence

/-- Whether an occurrence is a call to the compiler. -/
def isCall : Occurrence → Bool
  | called .. => true
  | _ => false

section

variable (event : Console.Event) (change : Transition) (line source : String) (artifact : Artifact)
  (held : Option Artifact) (result : Except Diagnostic Artifact)

@[simp] theorem isCall_console : (console event).isCall = false := rfl
@[simp] theorem isCall_printed : (printed line).isCall = false := rfl
@[simp] theorem isCall_called : (called source held).isCall = true := rfl
@[simp] theorem isCall_started : (started artifact).isCall = false := rfl
@[simp] theorem isCall_edited : edited.isCall = false := rfl
@[simp] theorem isCall_changed : (changed change).isCall = false := rfl
@[simp] theorem isCall_answered : (answered result).isCall = false := by cases result <;> rfl

end

end Occurrence

namespace Script

/-- The number of calls to the compiler. -/
def calls (os : List Occurrence) : Nat := os.countP (·.isCall)

variable (os ps : List Occurrence) (lines : List String)

@[simp] theorem calls_nil : calls [] = 0 := rfl

@[simp] theorem calls_append : calls (os ++ ps) = calls os + calls ps := List.countP_append

@[simp] theorem calls_cons (o : Occurrence) :
    calls (o :: os) = calls os + if o.isCall then 1 else 0 := List.countP_cons

@[simp] theorem calls_shown : calls (shown lines) = 0 := by
  induction lines with
  | nil => rfl
  | cons l ls ih => simpa [shown] using ih

@[simp] theorem calls_printed : calls (printed lines) = 0 := by
  induction lines with
  | nil => rfl
  | cons l ls ih => simpa [printed] using ih

theorem calls_running (s : State) (a : Artifact) (r : Performance) :
    calls (running s a r) = 0 := by
  cases h : r.result <;> simp [running, ending, h]

end Script

namespace Gateway

variable {σ : Type}

theorem invocations_compile (g : Gateway σ) (source : String) :
    (g.compile source).2.invocations = g.invocations + 1 := by
  unfold compile
  cases h : (g.compiler g.state source).1.artifact <;> simp [h]

end Gateway

namespace Pipeline

variable {σ : Type} {p : Pipeline σ}

/-! ## Calls to the compiler -/

theorem calls_call (p : Pipeline σ) : calls p.call = if p.cache.held.isSome then 0 else 1 := by
  unfold call
  split
  · rfl
  · simp

theorem calls_compiling (p : Pipeline σ) (s : State) (result : Except Diagnostic Artifact) :
    calls (compiling s p.call result) = calls p.call := by
  cases result <;> simp [compiling]

theorem calls_editing (s : State) : calls (editing s) = 0 := by
  unfold editing
  split <;> simp

/-- An action calls the compiler once if the cache is empty, and nothing else calls it. -/
theorem calls_script (p : Pipeline σ) (c : Command) :
    calls (p.script c) = if c.isAction && p.cache.held.isNone then 1 else 0 := by
  have hcompile : calls (p.script .compile) = if p.cache.held.isSome then 0 else 1 := by
    rw [script, calls_cons, calls_compiling, calls_call]; rfl
  cases c with
  | compile => rw [hcompile]; cases p.cache.held <;> rfl
  | run =>
    have hperforming : calls p.performing = 0 := by
      unfold performing
      split
      · exact calls_running _ _ _
      · rfl
    rw [script, calls_append, hperforming]
    cases hh : p.cache.held with
    | some a => rw [opening_of_held hh]; rfl
    | none =>
      rw [hh] at hcompile
      rw [opening_of_empty hh]
      exact hcompile
  | edit text => exact calls_editing p.state
  | notifyEdit => exact calls_editing p.state
  | setLimits limits => rfl

theorem invocations_lookup (p : Pipeline σ) : p.lookup.2.invocations =
    p.gateway.invocations + if p.cache.held.isNone then 1 else 0 := by
  cases hh : p.cache.held with
  | some a => rw [lookup_of_held hh]; rfl
  | none => rw [lookup_of_empty hh, Gateway.invocations_compile]; rfl

/-- **The gateway counts the calls that the journal tells of.** -/
theorem invocations_act (p : Pipeline σ) (c : Command) :
    (p.act c).gateway.invocations = p.gateway.invocations + calls (p.script c) := by
  rw [act_eq, recordAll_gateway, calls_script]
  cases c with
  | compile => exact invocations_lookup p
  | run => exact invocations_lookup p
  | edit text => rfl
  | notifyEdit => rfl
  | setLimits limits => rfl

/-! ## The story so far -/

/-- What a pipeline shows is what its journal tells, from a given console and an idle state on. -/
structure Recounted (console : Console) (p : Pipeline σ) : Prop where
  console : p.console = console.afterAll (events p.journal.toList)
  state : p.state = endState .idle p.journal.toList
  invocations : p.gateway.invocations = calls p.journal.toList

variable {console : Console}

theorem Recounted.act (h : p.Recounted console) (c : Command) : (p.act c).Recounted console := by
  refine ⟨?_, ?_, ?_⟩
  · rw [console_act, journal_act, events_append, Console.afterAll_append, h.console]
  · rw [state_act, journal_act, endState_append, h.state]
  · rw [invocations_act, journal_act, calls_append, h.invocations]

theorem Recounted.move (h : p.Recounted console) (m : Move) : (p.move m).Recounted console := by
  cases m with
  | command c => exact h.act c
  | outside text => exact ⟨h.console, h.state, h.invocations⟩
  | behave runner => exact ⟨h.console, h.state, h.invocations⟩

/-- **The journal leaves nothing out.** -/
theorem recounted_moveAll (console : Console) (compiler : Compiler σ) (start : σ) (sandbox : Sandbox)
    (runner : Runner) (text : String) (ms : List Move) :
    ((onto console compiler start sandbox runner text).moveAll ms).Recounted console :=
  moveAll_preserves (fun _ m h => h.move m) ms _ ⟨rfl, rfl, rfl⟩

end Pipeline

end Playground
