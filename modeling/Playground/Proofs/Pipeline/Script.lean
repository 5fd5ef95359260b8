import Playground.Pipeline
import Playground.Proofs.Console.Events

/-!
# The actions of a pipeline as scripts

Everything that an action shows to the outside is a list of occurrences, its script. What an action
leaves behind is the pipeline with another cache and another gateway, after its script was recorded:

* `Pipeline.recordAll` — the effect of a script on console, state, observers and journal.
* `compileText_eq` — the compile that both actions share.
* `perform_eq` — the run of an artifact.
* `compile_eq`, `run_of_ok`, `run_of_error` — the two actions.
* `notifyEdit_eq` — the edit event.

Nothing outside this file looks into the actions themselves.
-/

set_option autoImplicit false

namespace Playground

namespace Occurrence

/-- The console event that an occurrence is, if it is one. -/
def event? : Occurrence → Option Console.Event
  | console event => some event
  | _ => none

/-- The change of state that an occurrence is, if it is one. -/
def change? : Occurrence → Option Transition
  | changed change => some change
  | _ => none

section

variable (event : Console.Event) (change : Transition) (line source : String) (artifact : Artifact)
  (held : Option Artifact) (result : Except Diagnostic Artifact)

@[simp] theorem event?_console : (console event).event? = some event := rfl
@[simp] theorem event?_printed : (printed line).event? = none := rfl
@[simp] theorem event?_called : (called source held).event? = none := rfl
@[simp] theorem event?_started : (started artifact).event? = none := rfl
@[simp] theorem event?_edited : edited.event? = none := rfl
@[simp] theorem event?_changed : (changed change).event? = none := rfl
@[simp] theorem event?_answered : (answered result).event? = none := by cases result <;> rfl

@[simp] theorem change?_console : (console event).change? = none := rfl
@[simp] theorem change?_printed : (printed line).change? = none := rfl
@[simp] theorem change?_called : (called source held).change? = none := rfl
@[simp] theorem change?_started : (started artifact).change? = none := rfl
@[simp] theorem change?_edited : edited.change? = none := rfl
@[simp] theorem change?_changed : (changed change).change? = some change := rfl
@[simp] theorem change?_answered : (answered result).change? = none := by cases result <;> rfl

end

end Occurrence

/-! ## Scripts -/

namespace Script

/-- Lines that are shown on the console. -/
def shown (lines : List String) : List Occurrence := lines.map fun line => .console (.line line)

/-- Lines that a program prints. -/
def printed (lines : List String) : List Occurrence :=
  lines.flatMap fun line => [.printed line, .console (.line line)]

/-- A compile in state `s`: `call` is the call to the compiler, if there is one. -/
def compiling (s : State) (call : List Occurrence) : Except Diagnostic Artifact → List Occurrence
  | .ok _ => .changed ⟨s, .compiling⟩ :: call ++
      [.console (.line Pipeline.successLine), .changed ⟨.compiling, .compiled⟩]
  | .error d => .changed ⟨s, .compiling⟩ :: call ++ shown d.lines ++
      [.changed ⟨.compiling, .failed (.diagnostic d)⟩]

/-- How a run ends. -/
def ending : Except Crash Nat → List Occurrence
  | .ok _ => [.changed ⟨.running, .compiled⟩]
  | .error crash => shown crash.consoleLines ++ [.changed ⟨.running, .failed (.crash crash)⟩]

/-- A run of an artifact in state `s`. -/
def running (s : State) (artifact : Artifact) (r : Performance) : List Occurrence :=
  .changed ⟨s, .running⟩ :: .started artifact :: printed r.lines ++ ending r.result

/-- The console events of a script. -/
def events (os : List Occurrence) : List Console.Event := os.filterMap Occurrence.event?

/-- The changes of state in a script. -/
def changes (os : List Occurrence) : List Transition := os.filterMap Occurrence.change?

/-- The lines that report a compile. -/
def compileLines : Except Diagnostic Artifact → List String
  | .ok _ => [Pipeline.successLine]
  | .error d => d.lines

/-- The lines that report how a run ended. -/
def crashLines : Except Crash Nat → List String
  | .ok _ => []
  | .error crash => crash.consoleLines

variable (os ps : List Occurrence) (lines : List String)

@[simp] theorem events_nil : events [] = [] := rfl
@[simp] theorem changes_nil : changes [] = [] := rfl

@[simp] theorem events_append : events (os ++ ps) = events os ++ events ps :=
  List.filterMap_append

@[simp] theorem changes_append : changes (os ++ ps) = changes os ++ changes ps :=
  List.filterMap_append

@[simp] theorem events_cons (o : Occurrence) : events (o :: os) = o.event?.toList ++ events os := by
  cases h : o.event? <;> simp [events, h]

@[simp] theorem changes_cons (o : Occurrence) :
    changes (o :: os) = o.change?.toList ++ changes os := by
  cases h : o.change? <;> simp [changes, h]

@[simp] theorem events_shown : events (shown lines) = lines.map .line := by
  induction lines with
  | nil => rfl
  | cons l ls ih => simpa [shown] using ih

@[simp] theorem changes_shown : changes (shown lines) = [] := by
  induction lines with
  | nil => rfl
  | cons l ls ih => simpa [shown] using ih

@[simp] theorem events_printed : events (printed lines) = lines.map .line := by
  induction lines with
  | nil => rfl
  | cons l ls ih => simpa [printed] using ih

@[simp] theorem changes_printed : changes (printed lines) = [] := by
  induction lines with
  | nil => rfl
  | cons l ls ih => simpa [printed] using ih

end Script

open Script

namespace State

/-- The state that a compile leads to. -/
def afterCompile : Except Diagnostic Artifact → State
  | .ok _ => compiled
  | .error d => failed (.diagnostic d)

/-- The state that a run of an artifact leads to. -/
def afterRun : Except Crash Nat → State
  | .ok _ => compiled
  | .error crash => failed (.crash crash)

/-- The state that the edit event leads to. -/
def afterEdit (s : State) : State := if s = compiled then idle else s

end State

namespace Pipeline

variable {σ : Type} (p : Pipeline σ)

/-! ## Recording -/

/-- The pipeline after an occurrence: the console, the state and the observers follow it. -/
def record (p : Pipeline σ) (o : Occurrence) : Pipeline σ :=
  { p with
    console := p.console.afterAll o.event?.toList
    state := (o.change?.map (·.target)).getD p.state
    observers := p.observers.map fun told => told ++ o.change?.toList
    journal := p.journal.push o }

/-- The pipeline after a script. -/
def recordAll (p : Pipeline σ) (os : List Occurrence) : Pipeline σ := os.foldl record p

@[simp] theorem recordAll_nil : p.recordAll [] = p := rfl

theorem recordAll_cons (o : Occurrence) (os : List Occurrence) :
    p.recordAll (o :: os) = (p.record o).recordAll os := rfl

theorem recordAll_append (os ps : List Occurrence) :
    p.recordAll (os ++ ps) = (p.recordAll os).recordAll ps := List.foldl_append

/-- Where a script leads from a state. -/
def endState (s : State) (os : List Occurrence) : State :=
  (changes os).foldl (fun _ change => change.target) s

/-- **The effect of a script**, field by field. -/
theorem recordAll_eq (os : List Occurrence) : ∀ p : Pipeline σ, p.recordAll os =
    { p with
      console := p.console.afterAll (events os)
      state := endState p.state os
      observers := p.observers.map fun told => told ++ changes os
      journal := p.journal ++ os } := by
  induction os with
  | nil => intro p; simp [endState]
  | cons o os ih =>
    intro p
    rw [recordAll_cons, ih]
    cases h : o.change? <;> simp [record, endState, h, Function.comp_def]

@[simp] theorem recordAll_text (os : List Occurrence) : (p.recordAll os).text = p.text := by
  rw [recordAll_eq]

@[simp] theorem recordAll_gateway (os : List Occurrence) :
    (p.recordAll os).gateway = p.gateway := by
  rw [recordAll_eq]

@[simp] theorem recordAll_cache (os : List Occurrence) : (p.recordAll os).cache = p.cache := by
  rw [recordAll_eq]

@[simp] theorem recordAll_sandbox (os : List Occurrence) :
    (p.recordAll os).sandbox = p.sandbox := by
  rw [recordAll_eq]

@[simp] theorem recordAll_runner (os : List Occurrence) : (p.recordAll os).runner = p.runner := by
  rw [recordAll_eq]

@[simp] theorem recordAll_console (os : List Occurrence) :
    (p.recordAll os).console = p.console.afterAll (events os) := by
  rw [recordAll_eq]

@[simp] theorem recordAll_state (os : List Occurrence) :
    (p.recordAll os).state = endState p.state os := by
  rw [recordAll_eq]

@[simp] theorem recordAll_observers (os : List Occurrence) :
    (p.recordAll os).observers =
      p.observers.map fun (told : Array Transition) => told ++ changes os := by
  rw [recordAll_eq]

@[simp] theorem recordAll_journal (os : List Occurrence) :
    (p.recordAll os).journal.toList = p.journal.toList ++ os := by
  rw [recordAll_eq]; simp

theorem endState_append (s : State) (os ps : List Occurrence) :
    endState s (os ++ ps) = endState (endState s os) ps := by
  simp [endState]

theorem endState_shown (s : State) (lines : List String) : endState s (shown lines) = s := by
  simp [endState]

theorem events_running (s : State) (a : Artifact) (r : Performance) :
    events (running s a r) = (r.lines ++ crashLines r.result).map .line := by
  cases h : r.result <;> simp [running, ending, h, crashLines]

theorem changes_running (s : State) (a : Artifact) (r : Performance) :
    changes (running s a r) = [⟨s, .running⟩, ⟨.running, .afterRun r.result⟩] := by
  cases h : r.result <;> simp [running, ending, h, State.afterRun]

theorem endState_running (s t : State) (a : Artifact) (r : Performance) :
    endState s (running t a r) = .afterRun r.result := by
  rw [endState, changes_running]; rfl

/-! ### The steps of an action -/

theorem enter_eq (target : State) : p.enter target = p.record (.changed ⟨p.state, target⟩) := by
  simp [enter, record]

theorem clearConsole_eq : p.clearConsole = p.record (.console .cleared) := by
  simp [clearConsole, note, record, Console.after]

theorem writeLine_eq (line : String) : p.writeLine line = p.record (.console (.line line)) := by
  simp [writeLine, note, record, Console.after]

/-- An occurrence that neither the console nor an observer hears of is only noted. -/
theorem note_eq {o : Occurrence} (he : o.event? = none) (hc : o.change? = none) :
    p.note o = p.record o := by
  simp [note, record, he, hc]

theorem writeLines_eq (lines : List String) :
    ∀ p : Pipeline σ, p.writeLines lines = p.recordAll (shown lines) := by
  induction lines with
  | nil => intro p; rfl
  | cons l ls ih =>
    intro p
    have := ih (p.writeLine l)
    rw [writeLine_eq] at this
    simpa [writeLines, shown, writeLine_eq, recordAll_cons] using this

theorem printLines_eq (lines : List String) :
    ∀ p : Pipeline σ, p.printLines lines = p.recordAll (printed lines) := by
  induction lines with
  | nil => intro p; rfl
  | cons l ls ih =>
    intro p
    have hl : p.printLine l = (p.record (.printed l)).record (.console (.line l)) := by
      rw [printLine, writeLine_eq, note_eq p rfl rfl]
    have := ih (p.printLine l)
    rw [hl] at this
    simpa [printLines, printed, hl, recordAll_cons] using this

/-! ## Looking up the artifact -/

/-- What the present text comes to: the artifact held, or what a call to the compiler gives. -/
def lookup (p : Pipeline σ) : Except Diagnostic Artifact × Gateway σ :=
  match p.cache.held with
  | some artifact => (.ok artifact, p.gateway)
  | none => p.gateway.compile p.text

/-- The call to the compiler, if the cache is empty. -/
def call (p : Pipeline σ) : List Occurrence :=
  if p.cache.held.isSome then [] else [.called p.text none, .answered p.lookup.1]

/-- The pipeline that has looked up what the present text comes to. -/
def stored (p : Pipeline σ) : Pipeline σ :=
  { p with cache := ⟨p.lookup.1.toOption⟩, gateway := p.lookup.2 }

variable {p : Pipeline σ}

theorem lookup_of_held {a : Artifact} (h : p.cache.held = some a) :
    p.lookup = (.ok a, p.gateway) := by
  simp only [lookup, h]

theorem lookup_of_empty (h : p.cache.held = none) : p.lookup = p.gateway.compile p.text := by
  simp only [lookup, h]

theorem stored_of_held {a : Artifact} (h : p.cache.held = some a) : p.stored = p := by
  have hc : (⟨some a⟩ : Cache) = p.cache := by rw [← h]
  simp only [stored, lookup_of_held h, Except.toOption, hc]

theorem call_of_held {a : Artifact} (h : p.cache.held = some a) : p.call = [] := by
  simp [call, h]

theorem call_of_empty (h : p.cache.held = none) :
    p.call = [.called p.text none, .answered (p.gateway.compile p.text).1] := by
  simp [call, h, lookup_of_empty h]

theorem fetch_eq (p : Pipeline σ) : ∃ hit,
    p.fetch = (p.lookup.1.map (⟨·, hit⟩), p.stored.recordAll p.call) := by
  cases h : p.cache.held with
  | some a =>
    refine ⟨true, ?_⟩
    rw [call_of_held h, stored_of_held h, lookup_of_held h]
    simp [fetch, Cache.fetch, h, Except.map]
  | none =>
    refine ⟨false, ?_⟩
    have hc : p.cache = ⟨none⟩ := by rw [← h]
    rw [call_of_empty h]
    simp only [stored, lookup_of_empty h]
    cases hg : p.gateway.compile p.text with
    | mk result g =>
      cases result <;>
        simp [fetch, Cache.fetch, hc, hg, note, recordAll_cons, record, Except.map,
          Except.toOption]

theorem stored_record (p : Pipeline σ) (o : Occurrence) :
    (p.record o).stored = p.stored.record o := rfl

theorem events_call (p : Pipeline σ) : events p.call = [] := by
  unfold call
  split <;> simp

theorem changes_call (p : Pipeline σ) : changes p.call = [] := by
  unfold call
  split <;> simp

theorem events_compiling (p : Pipeline σ) (s : State) (result : Except Diagnostic Artifact) :
    events (compiling s p.call result) = (compileLines result).map .line := by
  cases result <;> simp [compiling, events_call, compileLines]

theorem changes_compiling (p : Pipeline σ) (s : State) (result : Except Diagnostic Artifact) :
    changes (compiling s p.call result) =
      [⟨s, .compiling⟩, ⟨.compiling, .afterCompile result⟩] := by
  cases result <;> simp [compiling, changes_call, State.afterCompile]

theorem endState_compiling (p : Pipeline σ) (s t : State) (result : Except Diagnostic Artifact) :
    endState s (compiling t p.call result) = .afterCompile result := by
  rw [endState, changes_compiling]; rfl

/-- **The compile that the two actions share.** -/
theorem compileText_eq (p : Pipeline σ) :
    p.compileText = (p.lookup.1, p.stored.recordAll (compiling p.state p.call p.lookup.1)) := by
  obtain ⟨hit, hf⟩ := fetch_eq (p.record (.changed ⟨p.state, .compiling⟩))
  have hl : (p.record (.changed ⟨p.state, .compiling⟩)).lookup = p.lookup := rfl
  have hc : (p.record (.changed ⟨p.state, .compiling⟩)).call = p.call := rfl
  rw [hl, hc, stored_record, ← recordAll_cons] at hf
  have hcache := recordAll_cache p.stored (.changed ⟨p.state, .compiling⟩ :: p.call)
  have hstate : (p.stored.recordAll (.changed ⟨p.state, .compiling⟩ :: p.call)).state =
      .compiling := by
    rw [recordAll_state]; simp [endState, changes_call]
  cases hr : p.lookup.1 with
  | ok a =>
    rw [hr] at hf
    simp only [compileText, enter_eq, hf, Except.map, compiling, recordAll_append, writeLine_eq]
    -- of the pipeline behind the call only the state matters from here on
    generalize p.stored.recordAll (.changed ⟨p.state, .compiling⟩ :: p.call) = q at hstate ⊢
    have hq : (q.record (.console (.line successLine))).state = .compiling := hstate
    rw [hq]; rfl
  | error d =>
    rw [hr] at hf
    simp only [compileText, enter_eq, hf, Except.map, compiling, recordAll_append, writeLines_eq]
    generalize p.stored.recordAll (.changed ⟨p.state, .compiling⟩ :: p.call) = q at hstate hcache ⊢
    have hq : { q with cache := .empty } = q := by
      have : q.cache = .empty := by rw [hcache, stored, hr]; rfl
      rw [← this]
    rw [hq, recordAll_state, endState_shown, hstate]; rfl

/-! ## Runs -/

end Pipeline

/-- What a run reports of the artifact. -/
def Performance.report (r : Performance) (compiled : Bool) : Except Failure RunReport :=
  (r.result.map (⟨compiled, ·⟩)).mapError .crash

namespace Performance

variable {r : Performance} (compiled : Bool)

theorem report_of_ok {n : Nat} (h : r.result = .ok n) : r.report compiled = .ok ⟨compiled, n⟩ := by
  rw [report, h]; rfl

theorem report_of_error {crash : Crash} (h : r.result = .error crash) :
    r.report compiled = .error (.crash crash) := by
  rw [report, h]; rfl

end Performance

namespace Pipeline

variable {σ : Type} {p : Pipeline σ}

/-- **The run of an artifact.** -/
theorem perform_eq (p : Pipeline σ) (a : Artifact) (compiled : Bool) :
    p.perform a compiled = ((p.runner p.sandbox a.bytes).report compiled,
      p.recordAll (running p.state a (p.runner p.sandbox a.bytes))) := by
  generalize hr : p.runner p.sandbox a.bytes = r
  -- the run with the fields of the performance named
  have hdef : p.perform a compiled =
      let q := ((p.enter .running).note (.started a)).printLines r.lines
      match r.result with
      | .ok n => (.ok ⟨compiled, n⟩, q.enter .compiled)
      | .error crash =>
        (.error (.crash crash),
          (q.writeLines crash.consoleLines).enter (.failed (.crash crash))) := by
    subst hr; rfl
  have hq : ((p.enter .running).note (.started a)).printLines r.lines =
      p.recordAll (.changed ⟨p.state, .running⟩ :: .started a :: printed r.lines) := by
    rw [printLines_eq, enter_eq, note_eq _ rfl rfl]; rfl
  have hstate : (p.recordAll (.changed ⟨p.state, .running⟩ :: .started a ::
      printed r.lines)).state = .running := by
    rw [recordAll_state]; simp [endState]
  rw [hdef, hq, running, recordAll_append, Performance.report]
  generalize p.recordAll (.changed ⟨p.state, .running⟩ :: .started a :: printed r.lines) = q
    at hstate ⊢
  cases r.result with
  | ok n => simp only [enter_eq, hstate]; rfl
  | error crash =>
    simp only [enter_eq, writeLines_eq, ending, recordAll_append, recordAll_state, endState_shown,
      hstate]
    rfl

/-! ## Actions and events -/

/-- **The action of compiling.** -/
theorem compile_eq (p : Pipeline σ) :
    p.compile = (p.lookup.1,
      p.stored.recordAll (.console .cleared :: compiling p.state p.call p.lookup.1)) := by
  rw [compile, clearConsole_eq, compileText_eq]
  rfl

theorem held_of_lookup_error {d : Diagnostic} (hl : p.lookup.1 = .error d) :
    p.cache.held = none := by
  cases h : p.cache.held with
  | none => rfl
  | some a => rw [lookup_of_held h] at hl; cases hl

theorem state_compile (p : Pipeline σ) : p.compile.2.state = .afterCompile p.lookup.1 := by
  rw [compile_eq, recordAll_state]
  exact endState_compiling p p.state p.state p.lookup.1

/-- What the action of running shows before the program starts. -/
def opening (p : Pipeline σ) : List Occurrence :=
  .console .cleared :: if p.cache.held.isSome then [] else compiling p.state p.call p.lookup.1

theorem opening_of_held {a : Artifact} (h : p.cache.held = some a) :
    p.opening = [.console .cleared] := by
  simp [opening, h]

theorem opening_of_empty (h : p.cache.held = none) :
    p.opening = .console .cleared :: compiling p.state p.call p.lookup.1 := by
  simp [opening, h]

/-- The state in which the program starts. -/
def launchState (p : Pipeline σ) : State := if p.cache.held.isSome then p.state else .compiled

/-- **The action of running a text that has an artifact**, in the cache or from the compiler. -/
theorem run_of_ok {a : Artifact} (hl : p.lookup.1 = .ok a) :
    p.run = ((p.runner p.sandbox a.bytes).report p.cache.held.isNone,
      p.stored.recordAll
        (p.opening ++ running p.launchState a (p.runner p.sandbox a.bytes))) := by
  have hl' : (p.record (.console .cleared)).lookup.1 = .ok a := hl
  cases h : p.cache.held with
  | some b =>
    have hc : (p.record (.console .cleared)).cache.held = some b := h
    obtain rfl : b = a := by rw [lookup_of_held h] at hl; cases hl; rfl
    rw [stored_of_held h, opening_of_held h, launchState, h]
    simp only [run, clearConsole_eq, hc, perform_eq]
    rfl
  | none =>
    have hc : (p.record (.console .cleared)).cache.held = none := h
    rw [opening_of_empty h, hl, launchState, h]
    simp only [run, clearConsole_eq, hc, compileText_eq, hl', perform_eq, recordAll_append,
      recordAll_state, recordAll_runner, recordAll_sandbox, endState_compiling]
    rfl

/-- **The action of running a text that does not compile.** -/
theorem run_of_error {d : Diagnostic} (hl : p.lookup.1 = .error d) :
    p.run = (.error (.diagnostic d),
      p.stored.recordAll (.console .cleared :: compiling p.state p.call (.error d))) := by
  have hc : (p.record (.console .cleared)).cache.held = none := held_of_lookup_error hl
  have hl' : (p.record (.console .cleared)).lookup.1 = .error d := hl
  simp only [run, clearConsole_eq, hc, compileText_eq, hl']
  rfl

theorem state_run_of_ok {a : Artifact} (hl : p.lookup.1 = .ok a) :
    p.run.2.state = .afterRun (p.runner p.sandbox a.bytes).result := by
  rw [run_of_ok hl, recordAll_state, endState_append, endState_running]

theorem state_run_of_error {d : Diagnostic} (hl : p.lookup.1 = .error d) :
    p.run.2.state = .failed (.diagnostic d) := by
  rw [run_of_error hl, recordAll_state]
  exact endState_compiling p p.state p.state (.error d)

/-- The script of the edit event in state `s`. -/
def editing (s : State) : List Occurrence :=
  if s = .compiled then [.edited, .changed ⟨.compiled, .idle⟩] else [.edited]

theorem endState_editing (s : State) : endState s (editing s) = s.afterEdit := by
  by_cases h : s = .compiled <;> simp [endState, editing, State.afterEdit, h]

/-- The pipeline with an empty cache. -/
def emptied (p : Pipeline σ) : Pipeline σ := { p with cache := .empty }

/-- **The edit event.** -/
theorem notifyEdit_eq (p : Pipeline σ) :
    p.notifyEdit = p.emptied.recordAll (editing p.state) := by
  have hdef : p.notifyEdit =
      let q := p.emptied.note .edited
      if q.state = .compiled then q.enter .idle else q := rfl
  have hs : (p.emptied.record .edited).state = p.state := rfl
  rw [hdef, note_eq _ rfl rfl, editing]
  simp only [enter_eq, hs]
  split
  · rename_i h; rw [h]; rfl
  · rfl

theorem state_notifyEdit (p : Pipeline σ) : p.notifyEdit.state = p.state.afterEdit := by
  rw [notifyEdit_eq, recordAll_state]
  exact endState_editing p.state

theorem cache_compile (p : Pipeline σ) : p.compile.2.cache = ⟨p.lookup.1.toOption⟩ := by
  rw [compile_eq, recordAll_cache]; rfl

theorem cache_run (p : Pipeline σ) : p.run.2.cache = ⟨p.lookup.1.toOption⟩ := by
  cases hl : p.lookup.1 with
  | ok a => rw [run_of_ok hl, recordAll_cache, stored, hl]
  | error d => rw [run_of_error hl, recordAll_cache, stored, hl]

theorem cache_notifyEdit (p : Pipeline σ) : p.notifyEdit.cache = .empty := by
  rw [notifyEdit_eq, recordAll_cache]; rfl

end Pipeline

end Playground
