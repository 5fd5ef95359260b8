import Playground.Console

/-!
# What a console does with events

A console that is cleared and written to goes through a list of events. This file says what such a
list leaves:

* `Console.afterAll` — the console after events, one after another.
* `renderer_afterAll` — an attached renderer is told of every event, and of nothing else.
* `heard_afterAll` — a renderer that never gives up takes them all in.
-/

set_option autoImplicit false

namespace Playground

open Console

namespace Renderer

/-- A renderer that gives up on nothing, whatever it got before. -/
def Patient (r : Renderer) : Prop := ∀ calls event, r.fails calls event = false

theorem steady_patient : Renderer.steady.Patient := fun _ _ => rfl

theorem Patient.tell {r : Renderer} (h : r.Patient) (event : Event) : (r.tell event).Patient := h

theorem Patient.heard_tell {r : Renderer} (h : r.Patient) (event : Event) :
    (r.tell event).heard = r.heard ++ [event] := by
  have hr : r.refuses event = false := h r.calls event
  simp [heard, Renderer.tell, hr]

/-- The renderer after it was told of events, one after another. -/
def tellAll (r : Renderer) (events : List Event) : Renderer := events.foldl tell r

theorem Patient.heard_tellAll (events : List Event) :
    ∀ {r : Renderer}, r.Patient → (r.tellAll events).heard = r.heard ++ events := by
  induction events with
  | nil => intro r _; simp [tellAll]
  | cons e es ih =>
    intro r h
    have := ih (h.tell e)
    rw [h.heard_tell] at this
    simpa [tellAll] using this

theorem Patient.tellAll (events : List Event) :
    ∀ {r : Renderer}, r.Patient → (r.tellAll events).Patient := by
  induction events with
  | nil => intro r h; exact h
  | cons e es ih => intro r h; exact ih (h.tell e)

end Renderer

namespace Console

/-! ## The console after events -/

/-- The console after an event. -/
def after (c : Console) : Event → Console
  | .cleared => c.clear.console
  | .line text => (c.writeLine text).console

/-- The console after events, one after another. -/
def afterAll (c : Console) (events : List Event) : Console := events.foldl after c

@[simp] theorem afterAll_nil (c : Console) : c.afterAll [] = c := rfl

@[simp] theorem afterAll_cons (c : Console) (e : Event) (es : List Event) :
    c.afterAll (e :: es) = (c.after e).afterAll es := rfl

@[simp] theorem afterAll_append (c : Console) (es fs : List Event) :
    c.afterAll (es ++ fs) = (c.afterAll es).afterAll fs := List.foldl_append

theorem renderer_tell (c : Console) (e : Event) :
    (c.tell e).console.renderer = c.renderer.map (·.tell e) := by
  rcases c with ⟨buffer, limit, _ | r⟩ <;> rfl

theorem renderer_writeLine (c : Console) (line : String) :
    (c.writeLine line).console.renderer = c.renderer.map (·.tell (.line line)) := by
  rw [← renderer_tell]
  unfold writeLine
  split
  · rename_i h; rw [h]
  · rename_i h; rw [h]

theorem renderer_after (c : Console) (e : Event) :
    (c.after e).renderer = c.renderer.map (·.tell e) := by
  cases e with
  | cleared => exact renderer_tell _ _
  | line text => exact renderer_writeLine c text

/-- **An attached renderer is told of every event in order**, and another one does not come up. -/
theorem renderer_afterAll (events : List Event) :
    ∀ c : Console, (c.afterAll events).renderer = c.renderer.map (·.tellAll events) := by
  induction events with
  | nil => intro c; cases h : c.renderer <;> simp [h, Renderer.tellAll]
  | cons e es ih =>
    intro c
    rw [afterAll_cons, ih, renderer_after, Option.map_map]
    rfl

/-- Whether there is a renderer and it gives up on nothing. -/
def Patient (c : Console) : Prop := ∃ r, c.renderer = some r ∧ r.Patient

theorem setRenderer_steady_patient (c : Console) : (c.setRenderer .steady).Patient :=
  ⟨_, rfl, Renderer.steady_patient⟩

theorem Patient.afterAll {c : Console} (h : c.Patient) (events : List Event) :
    (c.afterAll events).Patient := by
  obtain ⟨r, hr, hp⟩ := h
  exact ⟨_, by rw [renderer_afterAll, hr]; rfl, hp.tellAll events⟩

/-- **A renderer that never gives up takes in exactly the events.** -/
theorem heard_afterAll {c : Console} (h : c.Patient) (events : List Event) :
    (c.afterAll events).heard = c.heard ++ events := by
  obtain ⟨r, hr, hp⟩ := h
  have hr' : (c.afterAll events).renderer = some (r.tellAll events) := by
    rw [renderer_afterAll, hr]; rfl
  simp only [heard, hr, hr']
  exact hp.heard_tellAll events

end Console

end Playground
