import Playground.Proofs.Pipeline.Journal
import Playground.Proofs.Pipeline.Transcript

/-!
# The phases of an action

Console events, calls to the compiler, lines of the program and changes of state come in one order.
Each occurrence has its place in it, which is told by what came before:

* `InPhase` — what must have come before an occurrence.
* `Phased` — a list of occurrences, each of them in phase; `phased_script` says that every command
  adds such a list to the journal.
* `ActionScript`, `QuietScript` — how the script of an action looks, and that of any other command.
* `phase_discipline` — all occurrences in the journal of a pipeline are in phase, whatever happened.
-/

set_option autoImplicit false

namespace Playground

open Script

/-! ## The past of an occurrence -/

/-- Since the clear of the action that is going on, no failure was told of. -/
def Unfailed (past : List Occurrence) : Prop :=
  ∃ before during, past = before ++ .console .cleared :: during ∧
    ∀ c ∈ changes during, ∀ why, c.target ≠ .failed why

/-- An occurrence that comes after `past` comes in the right phase. -/
structure InPhase (past : List Occurrence) (o : Occurrence) : Prop where
  /-- The compiler is called only while compiling with an empty cache. -/
  called : ∀ source held, o = .called source held →
    Pipeline.endState .idle past = .compiling ∧ held = none
  /-- The program prints only while running. -/
  printed : ∀ line, o = .printed line → Pipeline.endState .idle past = .running
  /-- A line is written only by an action, and not behind the failure of one. -/
  written : ∀ line, o = .console (.line line) → Unfailed past
  /-- When a compile is told to have succeeded, the console has just been written so. -/
  compiled : o = .changed ⟨.compiling, .compiled⟩ →
    ∃ earlier, past = earlier ++ [.console (.line Pipeline.successLine)]
  /-- When a failure is told of, its lines have all been written. -/
  failed : ∀ s why, o = .changed ⟨s, .failed why⟩ →
    ∃ before during, past = before ++ .console .cleared :: during ++ shown why.consoleLines

/-- Occurrences that come one after another, the first of them after `past`, each in phase. -/
def Phased : List Occurrence → List Occurrence → Prop
  | _, [] => True
  | past, o :: os => InPhase past o ∧ Phased (past ++ [o]) os

theorem phased_append (ps : List Occurrence) : ∀ (os past : List Occurrence),
    Phased past (os ++ ps) ↔ Phased past os ∧ Phased (past ++ os) ps
  | [], past => by simp [Phased]
  | o :: os, past => by
    rw [List.cons_append, Phased, Phased, phased_append ps os, List.append_assoc, and_assoc]
    rfl

/-- Any occurrence among them is in phase. -/
theorem Phased.inPhase {past before later : List Occurrence} {o : Occurrence}
    (h : Phased past (before ++ o :: later)) : InPhase (past ++ before) o := by
  rw [phased_append, Phased] at h
  exact h.2.1

namespace Unfailed

variable {past : List Occurrence}

theorem of_cleared (before : List Occurrence) : Unfailed (before ++ [.console .cleared]) :=
  ⟨before, [], rfl, by simp⟩

theorem append (h : Unfailed past) {os : List Occurrence}
    (hos : ∀ c ∈ changes os, ∀ why, c.target ≠ .failed why) : Unfailed (past ++ os) := by
  obtain ⟨before, during, rfl, hduring⟩ := h
  refine ⟨before, during ++ os, by simp, ?_⟩
  intro c hc
  rw [changes_append, List.mem_append] at hc
  exact hc.elim (hduring c) (hos c)

end Unfailed

/-! ## Occurrences in phase -/

namespace InPhase

variable {past : List Occurrence}

theorem console_cleared (past : List Occurrence) : InPhase past (.console .cleared) := by
  constructor <;> simp

theorem console_line (h : Unfailed past) (line : String) :
    InPhase past (.console (.line line)) := by
  constructor <;> simp [h]

theorem print (h : Pipeline.endState .idle past = .running) (line : String) :
    InPhase past (.printed line) := by
  constructor <;> simp [h]

theorem call (h : Pipeline.endState .idle past = .compiling) (source : String) :
    InPhase past (.called source none) := by
  constructor <;> simp [h]

theorem answered (past : List Occurrence) (result : Except Diagnostic Artifact) :
    InPhase past (.answered result) := by
  cases result <;> constructor <;> simp [Occurrence.answered]

theorem started (past : List Occurrence) (a : Artifact) : InPhase past (.started a) := by
  constructor <;> simp

theorem edited (past : List Occurrence) : InPhase past .edited := by
  constructor <;> simp

/-- A change of state to anything but success or failure. -/
theorem changed (past : List Occurrence) {s t : State} (ht : t ≠ .compiled)
    (hf : ∀ why, t ≠ .failed why) : InPhase past (.changed ⟨s, t⟩) := by
  constructor <;> simp [ht, hf]

theorem changed_finished (past : List Occurrence) :
    InPhase past (.changed ⟨.running, .compiled⟩) := by
  constructor <;> simp

theorem changed_compiled (past : List Occurrence) :
    InPhase (past ++ [.console (.line Pipeline.successLine)])
      (.changed ⟨.compiling, .compiled⟩) := by
  constructor <;> simp

theorem changed_failed (h : Unfailed past) (s : State) (why : Failure) :
    InPhase (past ++ shown why.consoleLines) (.changed ⟨s, .failed why⟩) := by
  obtain ⟨before, during, rfl, -⟩ := h
  refine ⟨by simp, by simp, by simp, by simp, ?_⟩
  intro s' why' h
  cases h
  exact ⟨before, during, rfl⟩

end InPhase

/-! ## Scripts in phase -/

theorem phased_shown (lines : List String) : ∀ {past : List Occurrence}, Unfailed past →
    Phased past (shown lines) := by
  induction lines with
  | nil => intro past _; exact trivial
  | cons line rest ih =>
    intro past h
    exact ⟨.console_line h line, ih (h.append (by simp))⟩

theorem phased_printed (lines : List String) : ∀ {past : List Occurrence}, Unfailed past →
    Pipeline.endState .idle past = .running → Phased past (printed lines) := by
  induction lines with
  | nil => intro past _ _; exact trivial
  | cons line rest ih =>
    intro past h hs
    have hprint : Unfailed (past ++ [.printed line]) := h.append (by simp)
    refine ⟨.print hs line, .console_line hprint line, ih (hprint.append (by simp)) ?_⟩
    rw [Pipeline.endState_append, Pipeline.endState_append, hs]
    simp [Pipeline.endState]

/-- Lines and a failure that is told behind them. -/
theorem phased_failing {past : List Occurrence} (h : Unfailed past) (s : State) (why : Failure) :
    Phased past (shown why.consoleLines ++ [.changed ⟨s, .failed why⟩]) := by
  rw [phased_append]
  exact ⟨phased_shown _ h, .changed_failed h s why, trivial⟩

namespace Pipeline

variable {σ : Type} {p : Pipeline σ}

theorem phased_call {past : List Occurrence} (hs : endState .idle past = .compiling) :
    Phased past p.call := by
  unfold call
  split
  · exact trivial
  · exact ⟨.call hs p.text, .answered _ _, trivial⟩

/-- A compile, once the console is cleared. -/
theorem phased_compiling {past : List Occurrence} (h : Unfailed past) (s : State)
    (result : Except Diagnostic Artifact) : Phased past (compiling s p.call result) := by
  have hstart : Unfailed (past ++ [.changed ⟨s, .compiling⟩]) := h.append (by simp)
  have hstate : endState .idle (past ++ [.changed ⟨s, .compiling⟩]) = .compiling := by
    simp [endState]
  have hcalled : Unfailed (past ++ [.changed ⟨s, .compiling⟩] ++ p.call) :=
    hstart.append (by simp [changes_call])
  have hcall := phased_call (p := p) hstate
  have hchange : InPhase past (.changed ⟨s, .compiling⟩) := .changed past (by simp) (by simp)
  cases result with
  | ok a =>
    have hsplit : compiling s p.call (.ok a) = [.changed ⟨s, .compiling⟩] ++ (p.call ++
        [.console (.line successLine), .changed ⟨.compiling, .compiled⟩]) := rfl
    rw [hsplit, phased_append, phased_append]
    exact ⟨⟨hchange, trivial⟩, hcall, .console_line hcalled _, .changed_compiled _, trivial⟩
  | error d =>
    have hsplit : compiling s p.call (.error d) = [.changed ⟨s, .compiling⟩] ++ (p.call ++
        (shown d.lines ++ [.changed ⟨.compiling, .failed (.diagnostic d)⟩])) := by
      simp [compiling]
    rw [hsplit, phased_append, phased_append]
    exact ⟨⟨hchange, trivial⟩, hcall, phased_failing hcalled _ (.diagnostic d)⟩

theorem phased_running {past : List Occurrence} (h : Unfailed past) (s : State) (a : Artifact)
    (r : Performance) : Phased past (running s a r) := by
  have hstart : Unfailed (past ++ [.changed ⟨s, .running⟩, .started a]) := h.append (by simp)
  have hstate : endState .idle (past ++ [.changed ⟨s, .running⟩, .started a]) = .running := by
    simp [endState]
  have hprinted : Unfailed (past ++ [.changed ⟨s, .running⟩, .started a] ++ printed r.lines) :=
    hstart.append (by simp)
  have hsplit : running s a r =
      [.changed ⟨s, .running⟩, .started a] ++ (printed r.lines ++ ending r.result) := rfl
  rw [hsplit, phased_append, phased_append]
  refine ⟨⟨.changed past (by simp) (by simp), .started _ a, trivial⟩,
    phased_printed _ hstart hstate, ?_⟩
  cases r.result with
  | ok n => exact ⟨.changed_finished _, trivial⟩
  | error crash => exact phased_failing hprinted _ (.crash crash)

theorem phased_editing (past : List Occurrence) (s : State) : Phased past (editing s) := by
  unfold editing
  split
  · exact ⟨.edited past, .changed _ (by simp) (by simp), trivial⟩
  · exact ⟨.edited past, trivial⟩

theorem phased_compile (p : Pipeline σ) (past : List Occurrence) :
    Phased past (p.script .compile) :=
  ⟨.console_cleared past, phased_compiling (.of_cleared past) _ _⟩

/-- A run that gets an artifact has not failed by the time that the program starts. -/
theorem unfailed_opening {a : Artifact} (hl : p.lookup.1 = .ok a) (past : List Occurrence) :
    Unfailed (past ++ p.opening) := by
  have hcleared : Unfailed (past ++ [.console .cleared]) := .of_cleared past
  cases hh : p.cache.held with
  | some b => rw [opening_of_held hh]; exact hcleared
  | none =>
    rw [opening_of_empty hh, hl, List.append_cons]
    refine hcleared.append ?_
    rw [changes_compiling]
    simp [State.afterCompile]

theorem phased_opening (p : Pipeline σ) (past : List Occurrence) : Phased past p.opening := by
  cases hh : p.cache.held with
  | some a => rw [opening_of_held hh]; exact ⟨.console_cleared past, trivial⟩
  | none => rw [opening_of_empty hh]; exact p.phased_compile past

/-- **Every command keeps the order.** -/
theorem phased_script (p : Pipeline σ) (c : Command) (past : List Occurrence) :
    Phased past (p.script c) := by
  cases c with
  | compile => exact p.phased_compile past
  | run =>
    rw [script, phased_append]
    refine ⟨p.phased_opening past, ?_⟩
    cases hl : p.lookup.1 with
    | ok a =>
      rw [performing_of_ok hl]
      exact phased_running (unfailed_opening hl past) _ a _
    | error d => rw [performing_of_error hl]; exact trivial
  | edit text => exact phased_editing past p.state
  | notifyEdit => exact phased_editing past p.state
  | setLimits limits => exact trivial

theorem phased_move {m : Move} (h : Phased [] p.journal.toList) :
    Phased [] (p.move m).journal.toList := by
  cases m with
  | command c =>
    have hjournal : (p.move (.command c)).journal.toList = _ := p.journal_act c
    rw [hjournal, phased_append]
    exact ⟨h, p.phased_script c _⟩
  | outside text => exact h
  | behave runner => exact h

/-! ## Where actions begin -/

/-- The script of an action: it begins with a clear, clears no second time and calls the compiler at
most once. -/
structure ActionScript (os : List Occurrence) : Prop where
  clear : ∃ rest, os = .console .cleared :: rest ∧ .console .cleared ∉ rest
  calls : calls os ≤ 1

/-- The script of any other command: an edit event perhaps, and what follows from it. -/
def QuietScript (os : List Occurrence) : Prop :=
  ∀ o ∈ os, o = .edited ∨ o = .changed ⟨.compiled, .idle⟩

/-- The console events of a script tell where it clears. -/
theorem clear_of_events {os rest : List Occurrence} {lines : List String}
    (hos : os = .console .cleared :: rest) (h : events os = .cleared :: lines.map .line) :
    ∃ rest, os = .console .cleared :: rest ∧ .console .cleared ∉ rest := by
  refine ⟨rest, hos, ?_⟩
  intro hmem
  have hrest : events rest = lines.map .line := by simpa [hos] using h
  have hevent : .cleared ∈ events rest :=
    List.mem_filterMap.mpr ⟨_, hmem, Occurrence.event?_console _⟩
  rw [hrest, List.mem_map] at hevent
  obtain ⟨line, -, hline⟩ := hevent
  cases hline

theorem actionScript (p : Pipeline σ) {c : Command} (hc : c.isAction) :
    ActionScript (p.script c) := by
  have hcalls : Script.calls (p.script c) ≤ 1 := by
    rw [calls_script]
    split <;> omega
  refine ⟨?_, hcalls⟩
  cases c with
  | compile => exact clear_of_events rfl p.events_compile
  | run => exact clear_of_events rfl p.events_run
  | edit text => cases hc
  | notifyEdit => cases hc
  | setLimits limits => cases hc

theorem quietScript (p : Pipeline σ) {c : Command} (hc : c.isAction = false) :
    QuietScript (p.script c) := by
  have hediting : QuietScript (editing p.state) := by
    intro o ho
    unfold editing at ho
    split at ho <;> simp_all
  cases c with
  | compile => cases hc
  | run => cases hc
  | edit text => exact hediting
  | notifyEdit => exact hediting
  | setLimits limits =>
    intro o ho
    cases ho

/-- **Everything has its phase.** Whatever the compiler answers and however programs behave, all
that the journal of a pipeline tells came in the right phase, and the journal tells all of it. An
action begins with its only clear and calls the compiler at most once; other commands write nothing.
When a compile is told to have succeeded, the console shows so. -/
theorem phase_discipline (console : Console) (compiler : Compiler σ) (start : σ)
    (sandbox : Sandbox) (runner : Runner) (text : String) (ms : List Move) :
    let p := (onto console compiler start sandbox runner text).moveAll ms
    p.Recounted console ∧
    (∀ past o later, p.journal.toList = past ++ o :: later → InPhase past o) ∧
    (∀ past later, console.Calm → console.historyLimit ≠ some 0 →
      p.journal.toList = past ++ .changed ⟨.compiling, .compiled⟩ :: later →
        (console.afterAll (events past)).lines.getLast? = some successLine) ∧
    ∀ c : Command, (p.act c).journal.toList = p.journal.toList ++ p.script c ∧
      (c.isAction = true → ActionScript (p.script c)) ∧
      (c.isAction = false → QuietScript (p.script c)) := by
  intro p
  have hphased : Phased [] p.journal.toList :=
    moveAll_preserves (P := fun q => Phased [] q.journal.toList) (fun _ _ => phased_move) ms _
      trivial
  have hall : ∀ past o later, p.journal.toList = past ++ o :: later → InPhase past o := by
    intro past o later hjournal
    rw [hjournal] at hphased
    exact hphased.inPhase
  refine ⟨recounted_moveAll console compiler start sandbox runner text ms, hall, ?_, ?_⟩
  · intro past later hcalm hlimit hjournal
    obtain ⟨earlier, rfl⟩ := (hall past _ later hjournal).compiled rfl
    have hcalm' : (console.afterAll (events earlier)).Calm := hcalm.afterAll _
    rw [events_append, Console.afterAll_append]
    refine hcalm'.getLast?_writeLine ?_ successLine
    rw [Console.historyLimit_afterAll]
    exact hlimit
  · intro c
    exact ⟨p.journal_act c, p.actionScript, p.quietScript⟩

end Pipeline

end Playground
