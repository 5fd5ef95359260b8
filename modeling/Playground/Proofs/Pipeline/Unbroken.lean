import Playground.Proofs.Pipeline.Journal
import Playground.Proofs.Sandbox.Cut
import Playground.Proofs.Text.Lines

/-!
# Every line is one line

A console takes lines as they come. Those that a pipeline sends it come from the report of a
compile, from the program and from the report of a crash; none of them holds a line feed, whatever
the settings, the compiler, the program and the messages are.

* `Host.delivers_unbroken` — a print request delivers lines that are neither broken nor empty.
* `Sandbox.reworded` — the sandbox with an engine that has words of its own for every crash.
* `Occurrence.Tidy` — no line of an occurrence is broken, and no printed one is empty.
* `tidy_script` — all that a command shows is tidy; `tidy_perform` says it of any commands.
* `lines_unbroken` — so is all that a pipeline ever sends to its console.
-/

set_option autoImplicit false

namespace Playground

open Script Text

namespace Sandbox

/-! ## What programs print -/

theorem tidy_of_mem_linesOf {bytes : List UInt8} {line : String} (h : line ∈ Host.linesOf bytes) :
    line ≠ "" ∧ Unbroken line := Lines.unbroken_printed h

theorem Request.tidy_of_mem_lines {r : Request} {line : String} (h : line ∈ r.lines) :
    line ≠ "" ∧ Unbroken line := by
  unfold lines at h
  split at h
  · exact tidy_of_mem_linesOf h
  · cases h

/-- Lines are delivered from the first on, whatever the host has refused before. -/
theorem Host.writeLines_prefix (lines : List String) : ∀ h : Host, ∃ delivered,
    delivered <+: lines ∧ (h.writeLines lines).console =
      h.console.afterAll (delivered.map .line) := by
  induction lines with
  | nil => intro h; exact ⟨[], List.prefix_rfl, rfl⟩
  | cons line rest ih =>
    intro h
    rw [writeLines]
    cases hx : h.exhausted with
    | some n => exact ⟨[], List.nil_prefix, by simp [writeLine_of_full hx]⟩
    | none =>
      have hconsole : (h.writeLine line).console = h.console.after (.line line) := by
        rw [writeLine_of_room hx]
      by_cases hf : (h.writeLine line).fault.isSome
      · exact ⟨[line], List.prefix_append _ _, by rw [if_pos hf, hconsole]; rfl⟩
      · obtain ⟨delivered, hpre, hrest⟩ := ih (h.writeLine line)
        refine ⟨line :: delivered, List.cons_prefix_cons.mpr ⟨rfl, hpre⟩, ?_⟩
        rw [if_neg hf, hrest, hconsole]
        rfl

/-- **What a print request delivers.** -/
theorem Host.delivers_unbroken (h : Host) (r : Request) : ∃ lines : List String,
    (h.answer r).console = h.console.afterAll (lines.map .line) ∧
      ∀ line ∈ lines, line ≠ "" ∧ Unbroken line := by
  cases hr : r.content with
  | error f => exact ⟨[], by rw [answer_of_error hr]; rfl, nofun⟩
  | ok bytes =>
    obtain ⟨delivered, hpre, hconsole⟩ := writeLines_prefix r.lines h
    refine ⟨delivered, by rw [answer_of_ok hr, hconsole], ?_⟩
    intro line hline
    exact r.tidy_of_mem_lines (hpre.subset hline)

theorem mem_of_mem_asked {rs : List Request} {line : String} (h : line ∈ asked rs) :
    ∃ r ∈ rs, line ∈ r.lines := by
  induction rs with
  | nil => cases h
  | cons r rs ih =>
    cases hr : r.content with
    | error f => rw [asked_cons_of_error hr] at h; cases h
    | ok bytes =>
      rw [asked_cons_of_ok hr] at h
      rcases List.mem_append.mp h with h | h
      · exact ⟨r, List.mem_cons_self, h⟩
      · obtain ⟨r', hr', hline⟩ := ih h
        exact ⟨r', List.mem_cons_of_mem _ hr', hline⟩

theorem mem_of_mem_upTo {limit : Option Nat} {lines : List String} {line : String}
    (h : line ∈ upTo limit lines) : line ∈ lines := by
  cases limit with
  | none => exact h
  | some n => exact List.mem_of_mem_take h

/-- The lines of a run are those of print requests. -/
theorem tidy_of_mem_printed (s : Sandbox) (artifact : List UInt8) {line : String}
    (h : line ∈ s.printed artifact) : line ≠ "" ∧ Unbroken line := by
  rw [printed_eq] at h
  obtain ⟨r, -, hline⟩ := mem_of_mem_asked (mem_of_mem_upTo h)
  exact r.tidy_of_mem_lines hline

/-- The sandbox around an engine with words of its own for every crash. -/
def reworded (words : Sandbox → List UInt8 → Crash → String) : Runner := fun s artifact =>
  let r := s.perform artifact
  ⟨r.lines, r.result.mapError fun crash => ⟨crash.kind, words s artifact crash⟩⟩

theorem perform_eq_reworded : Sandbox.perform = reworded fun _ _ crash => crash.message := by
  funext s artifact
  have hsame : (s.perform artifact).result.mapError (fun crash => ⟨crash.kind, crash.message⟩) =
      (s.perform artifact).result := by
    cases (s.perform artifact).result <;> rfl
  rw [reworded, hsame]

theorem tidy_of_mem_reworded (words : Sandbox → List UInt8 → Crash → String) (s : Sandbox)
    (artifact : List UInt8) {line : String} (h : line ∈ (reworded words s artifact).lines) :
    line ≠ "" ∧ Unbroken line := s.tidy_of_mem_printed artifact h

end Sandbox

/-! ## Reports -/

theorem Crash.unbroken_consoleLines {crash : Crash} {line : String}
    (h : line ∈ crash.consoleLines) : Unbroken line := by
  rcases List.mem_cons.mp h with rfl | h
  · decide +kernel
  · exact Lines.unbroken_ofMessage h

/-- Whatever an answer is that is no artifact, its diagnostic is made of a payload. -/
theorem Answer.payload_of_artifact_error {answer : Answer} {d : Diagnostic}
    (h : answer.artifact = .error d) : ∃ payload, d = .ofPayload payload := by
  cases answer with
  | bytes artifact =>
    cases artifact with
    | nil => exact ⟨_, (Except.error.inj h).symm⟩
    | cons b bs => cases h
  | failure payload => exact ⟨_, (Except.error.inj h).symm⟩
  | breakdown message => exact ⟨_, (Except.error.inj h).symm⟩

theorem Gateway.payload_of_compile_error {σ : Type} {g : Gateway σ} {source : String}
    {d : Diagnostic} (h : (g.compile source).1 = .error d) : ∃ payload, d = .ofPayload payload := by
  rw [compile_result] at h
  cases hb : (g.compiler g.state source).1.artifact with
  | ok bytes => rw [hb] at h; cases h
  | error d' =>
    rw [hb] at h
    cases h
    exact Answer.payload_of_artifact_error hb

/-! ## What a pipeline shows -/

namespace Occurrence

/-- No line of an occurrence is broken, and no printed one is empty. -/
def Tidy : Occurrence → Prop
  | console (.line line) => Unbroken line
  | printed line => line ≠ "" ∧ Unbroken line
  | _ => True

theorem tidy_answered (result : Except Diagnostic Artifact) : (answered result).Tidy := by
  cases result <;> exact trivial

end Occurrence

namespace Script

theorem tidy_shown {lines : List String} (h : ∀ line ∈ lines, Unbroken line) :
    ∀ o ∈ shown lines, o.Tidy := by
  intro o ho
  obtain ⟨line, hline, rfl⟩ := List.mem_map.mp ho
  exact h line hline

theorem tidy_printed {lines : List String} (h : ∀ line ∈ lines, line ≠ "" ∧ Unbroken line) :
    ∀ o ∈ printed lines, o.Tidy := by
  intro o ho
  obtain ⟨line, hline, ho⟩ := List.mem_flatMap.mp ho
  simp only [List.mem_cons, List.not_mem_nil, or_false] at ho
  rcases ho with rfl | rfl
  · exact h line hline
  · exact (h line hline).2

theorem tidy_ending (result : Except Crash Nat) : ∀ o ∈ ending result, o.Tidy := by
  cases result with
  | ok n => simp [ending, Occurrence.Tidy]
  | error crash =>
    intro o ho
    rcases List.mem_append.mp ho with ho | ho
    · exact tidy_shown (fun _ => Crash.unbroken_consoleLines) o ho
    · rw [List.mem_singleton.mp ho]
      exact trivial

theorem tidy_running (s : State) (a : Artifact) {r : Performance}
    (h : ∀ line ∈ r.lines, line ≠ "" ∧ Unbroken line) : ∀ o ∈ running s a r, o.Tidy := by
  intro o ho
  simp only [running, List.cons_append, List.mem_cons, List.mem_append] at ho
  rcases ho with rfl | rfl | ho | ho
  · exact trivial
  · exact trivial
  · exact tidy_printed h o ho
  · exact tidy_ending r.result o ho

end Script

namespace Pipeline

variable {σ : Type} {p : Pipeline σ}

theorem tidy_call (p : Pipeline σ) : ∀ o ∈ p.call, o.Tidy := by
  intro o ho
  unfold call at ho
  split at ho
  · cases ho
  · simp only [List.mem_cons, List.not_mem_nil, or_false] at ho
    rcases ho with rfl | rfl
    · exact trivial
    · exact Occurrence.tidy_answered _

/-- The diagnostic that a text comes to is made of a payload. -/
theorem payload_of_lookup_error {d : Diagnostic} (hl : p.lookup.1 = .error d) :
    ∃ payload, d = .ofPayload payload := by
  rw [lookup_of_empty (held_of_lookup_error hl)] at hl
  exact Gateway.payload_of_compile_error hl

theorem tidy_compiling (p : Pipeline σ) :
    ∀ o ∈ compiling p.state p.call p.lookup.1, o.Tidy := by
  intro o ho
  cases hl : p.lookup.1 with
  | ok a =>
    rw [hl] at ho
    simp only [compiling, List.cons_append, List.mem_cons, List.mem_append, List.not_mem_nil,
      or_false] at ho
    rcases ho with rfl | ho | rfl | rfl
    · exact trivial
    · exact p.tidy_call o ho
    · have hline : Unbroken successLine := by decide +kernel
      exact hline
    · exact trivial
  | error d =>
    rw [hl] at ho
    simp only [compiling, List.cons_append, List.mem_cons, List.mem_append, List.not_mem_nil,
      or_false] at ho
    obtain ⟨payload, rfl⟩ := payload_of_lookup_error hl
    rcases ho with rfl | (ho | ho) | rfl
    · exact trivial
    · exact p.tidy_call o ho
    · exact tidy_shown (fun _ => Diagnostic.unbroken_ofPayload) o ho
    · exact trivial

theorem tidy_opening (p : Pipeline σ) : ∀ o ∈ p.opening, o.Tidy := by
  intro o ho
  unfold opening at ho
  rcases List.mem_cons.mp ho with rfl | ho
  · exact trivial
  · split at ho
    · cases ho
    · exact p.tidy_compiling o ho

/-- **All that a command shows is tidy** if what programs print is. -/
theorem tidy_script (hrunner : ∀ s artifact, ∀ line ∈ (p.runner s artifact).lines,
    line ≠ "" ∧ Unbroken line) (c : Command) : ∀ o ∈ p.script c, o.Tidy := by
  have hediting : ∀ o ∈ editing p.state, o.Tidy := by
    intro o ho
    unfold editing at ho
    split at ho
    · simp only [List.mem_cons, List.not_mem_nil, or_false] at ho
      rcases ho with rfl | rfl <;> exact trivial
    · rw [List.mem_singleton.mp ho]
      exact trivial
  intro o ho
  cases c with
  | compile =>
    rcases List.mem_cons.mp ho with rfl | ho
    · exact trivial
    · exact p.tidy_compiling o ho
  | run =>
    rcases List.mem_append.mp ho with ho | ho
    · exact p.tidy_opening o ho
    · cases hl : p.lookup.1 with
      | ok a =>
        rw [performing_of_ok hl] at ho
        exact tidy_running _ a (hrunner p.sandbox a.bytes) o ho
      | error d => rw [performing_of_error hl] at ho; cases ho
  | edit text => exact hediting o ho
  | notifyEdit => exact hediting o ho
  | setLimits limits => cases ho

theorem runner_act (p : Pipeline σ) (c : Command) : (p.act c).runner = p.runner := by
  rw [act_eq, recordAll_runner]
  cases c <;> rfl

theorem tidy_actAll (cs : List Command) : ∀ {p : Pipeline σ},
    (∀ s artifact, ∀ line ∈ (p.runner s artifact).lines, line ≠ "" ∧ Unbroken line) →
      (∀ o ∈ p.journal.toList, o.Tidy) → ∀ o ∈ (p.actAll cs).journal.toList, o.Tidy := by
  induction cs with
  | nil => intro p _ h; exact h
  | cons c cs ih =>
    intro p hrunner h
    refine ih (p := p.act c) ?_ ?_
    · rw [runner_act]
      exact hrunner
    · intro o ho
      rw [journal_act] at ho
      rcases List.mem_append.mp ho with ho | ho
      · exact h o ho
      · exact tidy_script hrunner c o ho

/-- In whatever words crashes are reported, all that commands show is tidy. -/
theorem tidy_reworded (console : Console) (compiler : Compiler σ) (start : σ) (sandbox : Sandbox)
    (words : Sandbox → List UInt8 → Crash → String) (text : String) (cs : List Command) :
    ∀ o ∈ ((onto console compiler start sandbox (Sandbox.reworded words) text).actAll
      cs).journal.toList, o.Tidy :=
  tidy_actAll cs (fun s artifact _ => Sandbox.tidy_of_mem_reworded words s artifact) nofun

/-- So is all that a new pipeline around the sandbox itself shows. -/
theorem tidy_perform (compiler : Compiler σ) (start : σ) (sandbox : Sandbox)
    (limit : Option Nat) (text : String) (cs : List Command) :
    ∀ o ∈ ((new compiler start sandbox Sandbox.perform limit text).actAll cs).journal.toList,
      o.Tidy := by
  rw [new_eq_onto, Sandbox.perform_eq_reworded]
  exact tidy_reworded _ compiler start sandbox _ text cs

theorem actAll_eq_moveAll (p : Pipeline σ) (cs : List Command) :
    p.actAll cs = p.moveAll (cs.map .command) := by
  rw [actAll, moveAll, List.foldl_map]
  rfl

/-- **One console line is one line.** In whatever words crashes are reported: after any commands,
the console has been through the events that the journal tells of, no line of these holds a line
feed, and no line that the program printed is empty. A print request sends only such lines to the
console of any host. -/
theorem lines_unbroken (console : Console) (compiler : Compiler σ) (start : σ) (sandbox : Sandbox)
    (words : Sandbox → List UInt8 → Crash → String) (text : String) (cs : List Command) :
    let p := (onto console compiler start sandbox (Sandbox.reworded words) text).actAll cs
    p.console = console.afterAll (events p.journal.toList) ∧
    (∀ line : String, .line line ∈ events p.journal.toList → Unbroken line) ∧
    (∀ line : String, .printed line ∈ p.journal.toList → line ≠ "" ∧ Unbroken line) ∧
    ∀ (h : Sandbox.Host) (r : Sandbox.Request), ∃ lines : List String,
      (h.answer r).console = h.console.afterAll (lines.map .line) ∧
        ∀ line ∈ lines, line ≠ "" ∧ Unbroken line := by
  intro p
  have htidy : ∀ o ∈ p.journal.toList, o.Tidy :=
    tidy_reworded console compiler start sandbox words text cs
  have hrecounted : p.Recounted console := by
    have hmoves : p = _ := actAll_eq_moveAll _ cs
    rw [hmoves]
    exact recounted_moveAll console compiler start sandbox (Sandbox.reworded words) text _
  refine ⟨hrecounted.console, ?_, ?_, Sandbox.Host.delivers_unbroken⟩
  · intro line hline
    obtain ⟨o, ho, hevent⟩ := List.mem_filterMap.mp hline
    cases o with
    | console event => cases hevent; exact htidy _ ho
    | _ => cases hevent
  · intro line hline
    exact htidy _ hline

end Pipeline

end Playground
