import Mathlib.Data.List.DropRight
import Playground.Console.Handles
import Playground.Proofs.Console.History

/-!
# What the handles to a console show

A console that is shared through handles is told by what it has asked of its renderers.

* `Locked.operate_eq` — the lock adds nothing: the console behind it goes through its own operations.
* `Entry`, `trace` — what an operation asks of the renderer, call by call, and who is attached.
* `standing` — the lines that were taken in since the last clear.
* `Follows` — the console as its trace tells it; `Follows.operate` says that operations keep it.
* `bounded_log` — what every handle shows after anything was done through any of them.
-/

set_option autoImplicit false

namespace Playground.Console

variable {c : Console}

theorem writeLines_cons_of_refused {line : String} (h : (c.writeLine line).interrupted = true)
    (rest : List String) : c.writeLines (line :: rest) = c.writeLine line := by
  rw [writeLines]
  split
  · rename_i hw; exact hw.symm
  · rename_i hw; rw [hw] at h; cases h

theorem writeLines_cons_of_taken {line : String} (h : (c.writeLine line).interrupted = false)
    (rest : List String) :
    c.writeLines (line :: rest) = (c.writeLine line).console.writeLines rest := by
  rw [writeLines]
  split
  · rename_i hw; rw [hw] at h; cases h
  · rename_i hw; rw [hw]

/-! ## The lock -/

namespace Locked

@[simp] theorem console_eq (l : Locked) : l.console = l.guarded := by
  unfold console take
  split
  · rename_i h
    split at h
    · cases h
    · cases h; rfl
  · rename_i h
    split at h
    · cases h; rfl
    · cases h

theorem hold_eq (l : Locked) (f : Console → Outcome) : l.hold f =
    (⟨(f l.guarded).console, l.poisoned || (f l.guarded).interrupted⟩,
      (f l.guarded).interrupted) := by
  rw [hold, console_eq]

theorem writeLines_eq (lines : List String) : ∀ l : Locked, l.writeLines lines =
    (⟨(l.guarded.writeLines lines).console,
      l.poisoned || (l.guarded.writeLines lines).interrupted⟩,
      (l.guarded.writeLines lines).interrupted) := by
  induction lines with
  | nil => intro l; simp [writeLines, Console.writeLines]
  | cons line rest ih =>
    intro l
    rw [writeLines, hold_eq]
    cases hw : (l.guarded.writeLine line).interrupted with
    | true => rw [writeLines_cons_of_refused hw, hw]
    | false => rw [writeLines_cons_of_taken hw, Bool.or_false]; exact ih _

/-- **The lock adds nothing.** Poisoned or not, the console behind it goes through the operation as
it would alone, and the lock is poisoned from then on if the operation was cut short. -/
theorem operate_eq (l : Locked) (o : Operation) : l.operate o =
    (⟨(l.guarded.operate o).console, l.poisoned || (l.guarded.operate o).interrupted⟩,
      (l.guarded.operate o).interrupted) := by
  cases o with
  | writeLine line => exact l.hold_eq (·.writeLine line)
  | writeLines lines => exact l.writeLines_eq lines
  | clear => exact l.hold_eq (·.clear)
  | setRenderer renderer => exact l.hold_eq fun c => ⟨c.setRenderer renderer, false⟩

end Locked

/-! ## What an operation asks of the renderer -/

/-- What happens between a console and its renderers. -/
inductive Entry where
  /-- The renderer was called; without a renderer the call fails for nobody. -/
  | called (call : Call)
  | attached (renderer : Renderer)

namespace Entry

/-- The call that an entry is, if it is one. -/
def call? : Entry → Option Call
  | called call => some call
  | attached _ => none

end Entry

/-- The call that an event makes now. -/
def callOf (c : Console) (event : Event) : Call := ⟨event, (c.tell event).interrupted⟩

/-- The calls that lines make: up to the first that the renderer gives up on. -/
def lineCalls (c : Console) : List String → List Call
  | [] => []
  | line :: rest =>
    c.callOf (.line line) ::
      if (c.writeLine line).interrupted then [] else (c.writeLine line).console.lineCalls rest

/-- What an operation asks of the renderer. -/
def trace (c : Console) : Operation → List Entry
  | .writeLine line => [.called (c.callOf (.line line))]
  | .writeLines lines => (c.lineCalls lines).map .called
  | .clear => [.called (c.callOf .cleared)]
  | .setRenderer renderer => [.attached renderer]

/-- The calls in a trace. -/
def callsIn (es : List Entry) : List Call := es.filterMap Entry.call?

/-- The line that a call brought in, unless the renderer gave up on it. -/
def Call.line? : Call → Option String
  | ⟨.line text, false⟩ => some text
  | _ => none

/-- The lines that were taken in since the last clear. -/
def standing (calls : List Call) : List String :=
  (calls.rtakeWhile fun call => call.event ≠ .cleared).filterMap Call.line?

/-- The renderer that a trace leaves: the last one attached, with the calls since then. -/
def listener (es : List Entry) : Option Renderer :=
  es.foldl (fun listener e =>
    match e with
    | .called call => listener.map fun r => { r with calls := r.calls.push call }
    | .attached r => some r) none

section

variable (es : List Entry) (calls : List Call)

@[simp] theorem callsIn_append (fs : List Entry) :
    callsIn (es ++ fs) = callsIn es ++ callsIn fs := List.filterMap_append

@[simp] theorem callsIn_attached (r : Renderer) : callsIn [.attached r] = [] := rfl

theorem standing_cleared (failed : Bool) : standing (calls ++ [⟨.cleared, failed⟩]) = [] := by
  rw [standing, List.rtakeWhile_concat_neg] <;> simp

theorem standing_line (text : String) (failed : Bool) :
    standing (calls ++ [⟨.line text, failed⟩]) =
      standing calls ++ if failed then [] else [text] := by
  rw [standing, List.rtakeWhile_concat_pos _ _ _ (by simp), List.filterMap_append]
  cases failed <;> rfl

theorem listener_append (fs : List Entry) : listener (es ++ fs) =
    fs.foldl (fun listener e =>
      match e with
      | .called call => listener.map fun r => { r with calls := r.calls.push call }
      | .attached r => some r) (listener es) := List.foldl_append

theorem listener_called (call : Call) : listener (es ++ [.called call]) =
    (listener es).map fun r => { r with calls := r.calls.push call } := by
  rw [listener_append]; rfl

theorem listener_attached (r : Renderer) : listener (es ++ [.attached r]) = some r := by
  rw [listener_append]; rfl

/-- **A renderer got exactly the calls since it was attached.** -/
theorem listener_since (r : Renderer) :
    listener (es ++ .attached r :: calls.map .called) =
      some { r with calls := r.calls ++ calls } := by
  induction calls using List.reverseRecOn with
  | nil => simpa using listener_attached es r
  | append_singleton calls call ih =>
    have hsplit : es ++ .attached r :: (calls ++ [call]).map Entry.called =
        (es ++ .attached r :: calls.map .called) ++ [.called call] := by simp
    have hpush : (r.calls ++ calls).push call = r.calls ++ (calls ++ [call]) := by
      apply Array.ext'
      simp
    rw [hsplit, listener_called, ih, Option.map_some, hpush]

end

/-! ## A console follows its trace -/

/-- The console is as its trace tells: of the lines taken in since the last clear it holds the last,
as many as the history limit admits, and its renderer got the calls since it was attached. -/
structure Follows (c : Console) (limit : Option Nat) (es : List Entry) : Prop where
  historyLimit : c.historyLimit = limit
  lines : c.lines = kept limit (standing (callsIn es))
  renderer : c.renderer = listener es

variable {limit : Option Nat} {es : List Entry}

theorem follows_new (limit : Option Nat) : (Console.new limit).Follows limit [] :=
  ⟨rfl, (kept_nil limit).symm, rfl⟩

/-- The renderer that was told is the one with one call more. -/
theorem renderer_tell_callOf (c : Console) (event : Event) : (c.tell event).console.renderer =
    c.renderer.map fun r => { r with calls := r.calls.push (c.callOf event) } := by
  rcases c with ⟨buffer, limit, _ | r⟩ <;> rfl

theorem interrupted_writeLine (c : Console) (line : String) :
    (c.writeLine line).interrupted = (c.tell (.line line)).interrupted := by
  unfold writeLine
  split
  · rename_i h; rw [h]
  · rename_i h; rw [h]

namespace Follows

theorem writeLine (h : c.Follows limit es) (line : String) :
    (c.writeLine line).console.Follows limit (es ++ [.called (c.callOf (.line line))]) := by
  refine ⟨?_, ?_, ?_⟩
  · rw [historyLimit_writeLine, h.historyLimit]
  · rw [callsIn_append]
    have hcalls : callsIn [.called (c.callOf (.line line))] = [c.callOf (.line line)] := rfl
    rw [hcalls, callOf, standing_line, lines_writeLine, h.historyLimit, h.lines]
    split
    · rw [List.append_nil]
    · exact kept_kept_append _ _ _
  · rw [listener_called, ← h.renderer, renderer_writeLine, ← renderer_tell, renderer_tell_callOf]

theorem clear (h : c.Follows limit es) :
    c.clear.console.Follows limit (es ++ [.called (c.callOf .cleared)]) := by
  refine ⟨?_, ?_, ?_⟩
  · have hlimit := historyLimit_after c .cleared
    rw [h.historyLimit] at hlimit
    exact hlimit
  · rw [callsIn_append]
    have hcalls : callsIn [.called (c.callOf .cleared)] = [c.callOf .cleared] := rfl
    rw [hcalls, callOf, standing_cleared, kept_nil, lines_clear]
  · have hrenderer := renderer_tell_callOf c .cleared
    rw [listener_called, ← h.renderer, ← hrenderer, renderer_tell, Console.clear, renderer_tell]

theorem writeLines (lines : List String) : ∀ {c : Console} {es : List Entry},
    c.Follows limit es →
      (c.writeLines lines).console.Follows limit (es ++ (c.lineCalls lines).map .called) := by
  induction lines with
  | nil =>
    intro c es h
    rw [lineCalls, List.map_nil, List.append_nil]
    exact h
  | cons line rest ih =>
    intro c es h
    have hline := h.writeLine line
    cases hw : (c.writeLine line).interrupted with
    | true =>
      rw [writeLines_cons_of_refused hw, lineCalls, hw, if_pos rfl]
      exact hline
    | false =>
      have hrest := ih hline
      rw [List.append_assoc] at hrest
      rw [writeLines_cons_of_taken hw, lineCalls, hw, if_neg Bool.false_ne_true]
      exact hrest

theorem setRenderer (h : c.Follows limit es) (r : Renderer) :
    (c.setRenderer r).Follows limit (es ++ [.attached r]) := by
  refine ⟨h.historyLimit, ?_, ?_⟩
  · rw [callsIn_append, callsIn_attached, List.append_nil]
    exact h.lines
  · rw [listener_attached]; rfl

/-- **Every operation is followed.** -/
theorem operate (h : c.Follows limit es) (o : Operation) :
    (c.operate o).console.Follows limit (es ++ c.trace o) := by
  cases o with
  | writeLine line => exact h.writeLine line
  | writeLines lines => exact h.writeLines lines
  | clear => exact h.clear
  | setRenderer r => exact h.setRenderer r

end Follows

/-! ## Handles -/

namespace Pool

/-- What a use asks of the renderer of the console in cell `k`. -/
def traceOf (m : Pool) (k : Nat) : Use → List Entry
  | .operate handle o =>
    if m.handles[handle]? = some k then ((m.consoleAt? k).map (·.trace o)).getD [] else []
  | .create _ | .clone _ => []

/-- What uses ask of the renderers of the console in cell `k`. -/
def traceAll (m : Pool) (k : Nat) : List Use → List Entry
  | [] => []
  | u :: us => m.traceOf k u ++ (m.use u).traceAll k us

variable {m : Pool} {k : Nat}

theorem consoleAt?_create (limit : Option Nat) :
    (m.create limit).consoleAt? m.cells.size = some (.new limit) := by
  simp [consoleAt?, create, Locked.new]

theorem consoleAt?_create_of_some {c : Console} (hc : m.consoleAt? k = some c)
    (limit : Option Nat) : (m.create limit).consoleAt? k = some c := by
  obtain ⟨l, hl, hlc⟩ := Option.map_eq_some_iff.mp hc
  have hk : k < m.cells.size := (Array.getElem?_eq_some_iff.mp hl).1
  have hne : k ≠ m.cells.size := by omega
  rw [consoleAt?, create, Array.getElem?_push, if_neg hne, hl, Option.map_some, hlc]

/-- An operation reaches the console that its handle leads to, and no other one. -/
theorem consoleAt?_operate {c : Console} (hc : m.consoleAt? k = some c) (handle : Nat)
    (o : Operation) : (m.use (.operate handle o)).consoleAt? k =
      some (if m.handles[handle]? = some k then (c.operate o).console else c) := by
  obtain ⟨l, hl, hlc⟩ := Option.map_eq_some_iff.mp hc
  rw [Locked.console_eq] at hlc
  cases hh : m.handles[handle]? with
  | none =>
    rw [if_neg (by simp)]
    simp only [use, hh]
    exact hc
  | some j =>
    simp only [use, hh, consoleAt?, Array.getElem?_modify, hl]
    by_cases hjk : j = k
    · simp [hjk, Locked.operate_eq, hlc]
    · simp [hjk, hlc]

/-- **A use of the pool is followed** by the console in each cell. -/
theorem follows_use {c : Console} {limit : Option Nat} {es : List Entry}
    (hc : m.consoleAt? k = some c) (h : c.Follows limit es) (u : Use) :
    ∃ c', (m.use u).consoleAt? k = some c' ∧ c'.Follows limit (es ++ m.traceOf k u) := by
  cases u with
  | create other =>
    refine ⟨c, consoleAt?_create_of_some hc other, ?_⟩
    rw [traceOf, List.append_nil]
    exact h
  | clone handle =>
    refine ⟨c, ?_, ?_⟩
    · simp only [use]
      split <;> exact hc
    · rw [traceOf, List.append_nil]
      exact h
  | operate handle o =>
    refine ⟨_, consoleAt?_operate hc handle o, ?_⟩
    rw [traceOf, hc]
    split
    · exact h.operate o
    · rw [List.append_nil]
      exact h

theorem follows_useAll (us : List Use) : ∀ {m : Pool} {c : Console} {limit : Option Nat}
    {es : List Entry}, m.consoleAt? k = some c → c.Follows limit es →
      ∃ c', (m.useAll us).consoleAt? k = some c' ∧ c'.Follows limit (es ++ m.traceAll k us) := by
  induction us with
  | nil =>
    intro m c limit es hc h
    refine ⟨c, hc, ?_⟩
    rw [traceAll, List.append_nil]
    exact h
  | cons u us ih =>
    intro m c limit es hc h
    obtain ⟨c₁, hc₁, h₁⟩ := follows_use hc h u
    obtain ⟨c₂, hc₂, h₂⟩ := ih hc₁ h₁
    refine ⟨c₂, hc₂, ?_⟩
    rw [traceAll, ← List.append_assoc]
    exact h₂

end Pool

/-- **A console is a bounded log that outlives its renderers.** A console is made in any pool, and
anything is done through handles to it and to others, while renderers give up whenever they like.
Then every handle to it shows the same: of the lines taken in since the last clear the last, as many
as the history limit admits. A renderer got every call since it was attached, in order. A line that
the renderer gives up on changes nothing, a clear empties the console even then, and a lock that was
poisoned so does not matter to any operation. -/
theorem bounded_log (m : Pool) (limit : Option Nat) (us : List Use) :
    let start := m.create limit
    let k := m.cells.size
    let es := start.traceAll k us
    ∃ c, (start.useAll us).consoleAt? k = some c ∧
      (∀ handle : Nat, (start.useAll us).handles[handle]? = some k →
        (start.useAll us).view handle = some (kept limit (standing (callsIn es)))) ∧
      (∀ (before : List Entry) (r : Renderer) (calls : List Call),
        es = before ++ .attached r :: calls.map .called →
          c.renderer = some { r with calls := r.calls ++ calls }) ∧
      (∀ line : String, (c.writeLine line).interrupted = true →
        (c.writeLine line).console.lines = c.lines) ∧
      c.clear.console.lines = [] ∧
      ∀ (poisoned : Bool) (o : Operation),
        ((⟨c, poisoned⟩ : Locked).operate o).1.console = (c.operate o).console := by
  intro start k es
  obtain ⟨c, hc, h⟩ := Pool.follows_useAll us (m.consoleAt?_create limit) (follows_new limit)
  rw [List.nil_append] at h
  refine ⟨c, hc, ?_, ?_, ?_, lines_clear c, ?_⟩
  · intro handle hhandle
    rw [Pool.view, hhandle, Option.bind_eq_bind, Option.bind_some, hc, Option.map_some, h.lines]
  · intro before r calls hes
    have hlistener : c.renderer = listener es := h.renderer
    rw [hlistener, hes, listener_since]
  · intro line hline
    rw [interrupted_writeLine] at hline
    rw [lines_writeLine, if_pos hline]
  · intro poisoned o
    rw [Locked.operate_eq, Locked.console_eq]

/-- The line that the renderer gives up on evicts nothing, and the line behind it is not issued. -/
example :
    let m := (Pool.create ⟨#[], #[]⟩ (some 2)).useAll
      [.clone 0, .operate 0 (.setRenderer (.failingOn "x")), .operate 1 (.writeLines ["a", "b"]),
        .operate 0 (.writeLines ["x", "y"]), .operate 1 (.writeLine "c")]
    m.view 0 = some ["b", "c"] ∧ m.view 1 = some ["b", "c"] := ⟨rfl, rfl⟩

end Playground.Console
