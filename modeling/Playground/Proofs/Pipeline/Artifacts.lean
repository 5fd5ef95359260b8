import Playground.Proofs.Pipeline.Command

/-!
# What becomes of artifacts

The journal of a pipeline tells which artifacts the compiler delivered and which were started.

* `starts`, `deliveries` — the artifacts that are started and delivered in a list of occurrences.
* `OfArtifacts` — a view of occurrences that sees nothing else; `view_script` says that in the
  script of a command it sees the call to the compiler and the start of the program.
* `starts_script`, `deliveries_script` — what a command starts, and what it is delivered.
-/

set_option autoImplicit false

namespace Playground

open Script

namespace Occurrence

/-- The program that an occurrence starts, if it starts one. -/
def started? : Occurrence → Option Artifact
  | started artifact => some artifact
  | _ => none

/-- The artifact that the compiler delivers with an occurrence, if it delivers one. -/
def delivered? : Occurrence → Option Artifact
  | delivered artifact => some artifact
  | _ => none

/-- A view of occurrences that sees neither the console nor changes of state nor edit events. -/
structure OfArtifacts (view : Occurrence → Option Artifact) : Prop where
  console : ∀ event, view (.console event) = none
  printed : ∀ line, view (.printed line) = none
  changed : ∀ change, view (.changed change) = none
  edited : view .edited = none

theorem started?_ofArtifacts : OfArtifacts started? :=
  ⟨fun _ => rfl, fun _ => rfl, fun _ => rfl, rfl⟩

theorem delivered?_ofArtifacts : OfArtifacts delivered? :=
  ⟨fun _ => rfl, fun _ => rfl, fun _ => rfl, rfl⟩

end Occurrence

open Occurrence

namespace Script

/-- The programs that are started, in order. -/
def starts (os : List Occurrence) : List Artifact := os.filterMap started?

/-- The artifacts that the compiler delivers, in order. -/
def deliveries (os : List Occurrence) : List Artifact := os.filterMap delivered?

@[simp] theorem starts_append (os ps : List Occurrence) :
    starts (os ++ ps) = starts os ++ starts ps := List.filterMap_append

@[simp] theorem deliveries_append (os ps : List Occurrence) :
    deliveries (os ++ ps) = deliveries os ++ deliveries ps := List.filterMap_append

end Script

namespace Occurrence.OfArtifacts

variable {view : Occurrence → Option Artifact}

theorem view_shown (h : OfArtifacts view) (lines : List String) :
    (shown lines).filterMap view = [] := by
  simp [shown, h.console]

theorem view_printed (h : OfArtifacts view) (lines : List String) :
    (Script.printed lines).filterMap view = [] := by
  induction lines with
  | nil => rfl
  | cons l ls ih => simpa [Script.printed, h.printed, h.console] using ih

theorem view_compiling (h : OfArtifacts view) (s : State) (call : List Occurrence)
    (result : Except Diagnostic Artifact) :
    (compiling s call result).filterMap view = call.filterMap view := by
  cases result <;> simp [compiling, h.changed, h.console, h.view_shown]

theorem view_running (h : OfArtifacts view) (s : State) (a : Artifact) (r : Performance) :
    (running s a r).filterMap view = (view (.started a)).toList := by
  cases hr : r.result <;> cases hv : view (.started a) <;>
    simp [running, ending, hr, hv, h.changed, h.view_printed, h.view_shown]

theorem view_editing (h : OfArtifacts view) (s : State) :
    (Pipeline.editing s).filterMap view = [] := by
  unfold Pipeline.editing
  split <;> simp [h.edited, h.changed]

end Occurrence.OfArtifacts

namespace Command

/-- The command that runs the program. -/
def isRun : Command → Bool
  | run => true
  | _ => false

end Command

namespace Pipeline

variable {σ : Type} {p : Pipeline σ}

/-- The artifact that a command starts: a run starts what its text comes to. -/
def launched (p : Pipeline σ) (c : Command) : Option Artifact :=
  if c.isRun then p.lookup.1.toOption else none

theorem view_opening {view : Occurrence → Option Artifact} (h : OfArtifacts view)
    (p : Pipeline σ) : p.opening.filterMap view = p.call.filterMap view := by
  cases hh : p.cache.held with
  | some a =>
    rw [opening_of_held hh, call_of_held hh]
    simp [h.console]
  | none =>
    rw [opening_of_empty hh, List.filterMap_cons, h.console]
    exact h.view_compiling _ _ _

theorem view_performing {view : Occurrence → Option Artifact} (h : OfArtifacts view)
    (p : Pipeline σ) : p.performing.filterMap view =
      ((p.launched .run).bind fun a => view (.started a)).toList := by
  cases hl : p.lookup.1 with
  | ok a =>
    rw [performing_of_ok hl, h.view_running, launched, hl]
    rfl
  | error d =>
    rw [performing_of_error hl, launched, hl]
    rfl

/-- **What a command does with artifacts**: an action may call the compiler, and a run starts the
artifact that it has got. -/
theorem view_script {view : Occurrence → Option Artifact} (h : OfArtifacts view)
    (p : Pipeline σ) (c : Command) : (p.script c).filterMap view =
      (if c.isAction then p.call.filterMap view else []) ++
        ((p.launched c).bind fun a => view (.started a)).toList := by
  cases c with
  | compile =>
    have hcompile : (p.script .compile).filterMap view = p.call.filterMap view := by
      rw [script, List.filterMap_cons, h.console]
      exact h.view_compiling _ _ _
    rw [hcompile]
    simp [launched, Command.isAction, Command.isRun]
  | run => rw [script, List.filterMap_append, view_opening h, view_performing h]; rfl
  | edit text => exact h.view_editing p.state
  | notifyEdit => exact h.view_editing p.state
  | setLimits limits => rfl

theorem starts_script (p : Pipeline σ) (c : Command) :
    starts (p.script c) = (p.launched c).toList := by
  have hcall : p.call.filterMap started? = [] := by
    unfold call
    split
    · rfl
    · cases p.lookup.1 <;> rfl
  rw [starts, view_script started?_ofArtifacts, hcall]
  cases c.isAction <;> cases p.launched c <;> rfl

/-- A command is delivered an artifact if it is an action that finds the cache empty and the text
compiles. -/
theorem deliveries_script (p : Pipeline σ) (c : Command) : deliveries (p.script c) =
    if c.isAction && p.cache.held.isNone then p.lookup.1.toOption.toList else [] := by
  have hcall : p.call.filterMap delivered? =
      if p.cache.held.isNone then p.lookup.1.toOption.toList else [] := by
    unfold call
    cases p.cache.held with
    | some a => rfl
    | none => cases p.lookup.1 <;> rfl
  have hstart : ((p.launched c).bind fun a => delivered? (.started a)).toList = [] := by
    cases p.launched c <;> rfl
  rw [deliveries, view_script delivered?_ofArtifacts, hcall, hstart, List.append_nil]
  cases c.isAction <;> rfl

end Pipeline

end Playground
