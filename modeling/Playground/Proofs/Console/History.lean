import Playground.Proofs.Console.Events

/-!
# What a console keeps

A console keeps the last of the lines written to it since it was cleared, as many as its history
limit admits; its renderer is told of all of them.

* `kept` — the last lines that a limit admits.
* `lines_writeLine` — a line is kept unless the renderer gives up on it.
* `Calm` — a console whose renderer, if it has one, gives up on nothing.
* `lines_afterAll_lines` — the lines of a calm console after a list of lines was written.
* `Renderer.received` — all that a renderer was told; `received_tellAll` says that it grows by
  exactly the events.
-/

set_option autoImplicit false

namespace Playground

open Console

namespace Renderer

/-- All events that the renderer was told of, those it gave up on included. -/
def received (r : Renderer) : List Event := r.calls.toList.map (·.event)

theorem received_tell (r : Renderer) (e : Event) : (r.tell e).received = r.received ++ [e] := by
  simp [received, tell]

theorem received_tellAll (events : List Event) : ∀ r : Renderer,
    (r.tellAll events).received = r.received ++ events := by
  induction events with
  | nil => intro r; simp [tellAll]
  | cons e es ih =>
    intro r
    have htail := ih (r.tell e)
    rw [received_tell, List.append_assoc] at htail
    exact htail

end Renderer

namespace Console

/-! ## The last lines -/

/-- The last lines that a history limit admits; all of them without a limit. -/
def kept (limit : Option Nat) (lines : List String) : List String :=
  match limit with
  | none => lines
  | some n => lines.drop (lines.length - n)

@[simp] theorem kept_nil (limit : Option Nat) : kept limit [] = [] := by
  cases limit <;> simp [kept]

/-- What was dropped once does not come back: only the lines kept matter to what is kept later. -/
theorem kept_kept_append (limit : Option Nat) (lines more : List String) :
    kept limit (kept limit lines ++ more) = kept limit (lines ++ more) := by
  cases limit with
  | none => rfl
  | some n =>
    by_cases h : lines.length ≤ n
    · have hall : kept (some n) lines = lines := by
        have hzero : lines.length - n = 0 := by omega
        simp [kept, hzero]
      rw [hall]
    · have hle : lines.length - n ≤ lines.length := by omega
      have hlen : (lines.drop (lines.length - n)).length = n := by
        rw [List.length_drop]; omega
      simp only [kept, List.length_append, hlen]
      -- dropping the first lines now or later comes to the same
      have hsum : lines.length + more.length - n =
          lines.length - n + (n + more.length - n) := by omega
      rw [← List.drop_append_of_le_length hle, List.drop_drop, hsum]

theorem getLast?_kept {limit : Option Nat} (h : limit ≠ some 0) (lines : List String) :
    (kept limit lines).getLast? = lines.getLast? := by
  cases limit with
  | none => rfl
  | some n =>
    have hpos : n ≠ 0 := fun hn => h (by rw [hn])
    unfold kept
    cases hl : lines with
    | nil => simp
    | cons l ls =>
      have hlt : (l :: ls).length - n < (l :: ls).length := by
        rw [List.length_cons]; omega
      rw [List.getLast?_drop, if_neg (by omega)]

theorem toList_keepLast (limit : Option Nat) (buffer : Array String) :
    (keepLast limit buffer).toList = kept limit buffer.toList := by
  cases limit with
  | none => rfl
  | some n =>
    by_cases hle : buffer.size ≤ n
    · have hzero : buffer.size - n = 0 := by omega
      simp [keepLast, kept, hle, hzero]
    · have htail : (buffer.toList.drop (buffer.size - n)).length ≤
          buffer.size - (buffer.size - n) := by simp
      rw [keepLast, if_neg hle, Array.toList_extract, List.extract_eq_take_drop,
        List.take_of_length_le htail]
      rfl

/-! ## One event -/

theorem lines_tell (c : Console) (e : Event) : (c.tell e).console.lines = c.lines := by
  rcases c with ⟨buffer, limit, _ | r⟩ <;> rfl

theorem historyLimit_tell (c : Console) (e : Event) :
    (c.tell e).console.historyLimit = c.historyLimit := by
  rcases c with ⟨buffer, limit, _ | r⟩ <;> rfl

/-- **A line is added and the oldest ones make room**, unless the renderer gives up on it: then all
stays as it was. -/
theorem lines_writeLine (c : Console) (line : String) : (c.writeLine line).console.lines =
    if (c.tell (.line line)).interrupted then c.lines
    else kept c.historyLimit (c.lines ++ [line]) := by
  have hlines := lines_tell c (.line line)
  have hlimit := historyLimit_tell c (.line line)
  unfold writeLine
  split
  · rename_i console h
    rw [h] at hlines ⊢
    rw [if_pos rfl]
    exact hlines
  · rename_i buffer limit renderer h
    rw [h] at hlines hlimit ⊢
    rw [if_neg Bool.false_ne_true, ← hlines, ← hlimit]
    simp only [lines, toList_keepLast, Array.toList_push]

theorem historyLimit_writeLine (c : Console) (line : String) :
    (c.writeLine line).console.historyLimit = c.historyLimit := by
  have hlimit := historyLimit_tell c (.line line)
  unfold writeLine
  split
  · rename_i h; rw [h] at hlimit; exact hlimit
  · rename_i h; rw [h] at hlimit; exact hlimit

/-- A clear empties the console, whatever its renderer does. -/
theorem lines_clear (c : Console) : c.clear.console.lines = [] :=
  lines_tell { c with buffer := #[] } .cleared

theorem historyLimit_after (c : Console) (e : Event) :
    (c.after e).historyLimit = c.historyLimit := by
  cases e with
  | cleared => exact historyLimit_tell { c with buffer := #[] } .cleared
  | line text => exact historyLimit_writeLine c text

theorem historyLimit_afterAll (events : List Event) : ∀ c : Console,
    (c.afterAll events).historyLimit = c.historyLimit := by
  induction events with
  | nil => intro c; rfl
  | cons e es ih => intro c; rw [afterAll_cons, ih, historyLimit_after]

/-! ## Many lines -/

/-- The renderer, if there is one, gives up on nothing. -/
def Calm (c : Console) : Prop := ∀ r, c.renderer = some r → r.Patient

theorem calm_new (limit : Option Nat) : (Console.new limit).Calm := nofun

theorem setRenderer_steady_calm (c : Console) : (c.setRenderer .steady).Calm := by
  intro r hr
  cases hr
  exact Renderer.steady_patient

theorem Calm.afterAll {c : Console} (h : c.Calm) (events : List Event) :
    (c.afterAll events).Calm := by
  intro r hr
  rw [renderer_afterAll] at hr
  obtain ⟨r', hr', rfl⟩ := Option.map_eq_some_iff.mp hr
  exact (h r' hr').tellAll events

theorem Calm.not_interrupted {c : Console} (h : c.Calm) (e : Event) :
    (c.tell e).interrupted = false := by
  rcases c with ⟨buffer, limit, _ | r⟩
  · rfl
  · exact h r rfl r.calls e

theorem Calm.lines_writeLine {c : Console} (h : c.Calm) (line : String) :
    (c.writeLine line).console.lines = kept c.historyLimit (c.lines ++ [line]) := by
  rw [Console.lines_writeLine, h.not_interrupted, if_neg Bool.false_ne_true]

/-- A line that was just written is the last one, if any are kept. -/
theorem Calm.getLast?_writeLine {c : Console} (h : c.Calm) (hlimit : c.historyLimit ≠ some 0)
    (line : String) : (c.writeLine line).console.lines.getLast? = some line := by
  rw [h.lines_writeLine, getLast?_kept hlimit, List.getLast?_concat]

/-- **Lines written to a calm console.** If it had kept the last of some lines, it now keeps the
last of those and the new ones. -/
theorem Calm.lines_afterAll_lines (more : List String) : ∀ {c : Console} {before : List String},
    c.Calm → c.lines = kept c.historyLimit before →
      (c.afterAll (more.map .line)).lines = kept c.historyLimit (before ++ more) := by
  induction more with
  | nil => intro c before _ hb; rw [List.append_nil]; exact hb
  | cons line rest ih =>
    intro c before h hb
    have hlimit := historyLimit_after c (.line line)
    have hline : (c.after (.line line)).lines =
        kept (c.after (.line line)).historyLimit (before ++ [line]) := by
      rw [hlimit, ← kept_kept_append, ← hb]
      exact h.lines_writeLine line
    have hcalm : (c.after (.line line)).Calm := h.afterAll [.line line]
    have hrest := ih hcalm hline
    rw [hlimit, List.append_assoc] at hrest
    exact hrest

/-- **A clear and then lines**: what was there before does not matter. -/
theorem Calm.lines_afterAll_cleared {c : Console} (h : c.Calm) (lines : List String) :
    (c.afterAll (.cleared :: lines.map .line)).lines = kept c.historyLimit lines := by
  have hcalm : (c.after .cleared).Calm := h.afterAll [.cleared]
  have hempty : (c.after .cleared).lines = kept (c.after .cleared).historyLimit [] := by
    rw [kept_nil]; exact lines_clear c
  have hlines := hcalm.lines_afterAll_lines lines hempty
  rw [historyLimit_after] at hlines
  exact hlines

end Console

end Playground
