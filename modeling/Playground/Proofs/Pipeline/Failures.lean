import Playground.Proofs.Pipeline.Artifacts
import Playground.Proofs.Pipeline.Journal
import Playground.Proofs.Pipeline.Transcript

/-!
# Failed actions

An action that fails leaves three records of its failure: the state, what observers were told last
and the last lines on the console. This file says that they agree with the reply, and that the right
artifact survives:

* `failure?` — the failure that a command replies.
* `Failed` — an action has failed in some way, and every record of it says so.
* `Kept` — one artifact was kept in the cache, and whatever was started is that artifact;
  `kept_moveAll` says that this is so until an edit event comes.
* `failure_recorded` — a failed action has failed on record; a diagnostic leaves nothing, and a crash
  leaves the artifact that crashed, for all runs up to the next edit event.
-/

set_option autoImplicit false

namespace Playground

open Script

namespace Move

/-- The moves that fire the edit event. -/
def isEdit : Move → Bool
  | command c => c.isEdit
  | _ => false

/-- The moves that run the program. -/
def isRun : Move → Bool
  | command c => c.isRun
  | _ => false

end Move

namespace Pipeline

variable {σ : Type} {p q r : Pipeline σ}

/-! ## An artifact that is kept -/

/-- From `p` to `q` the artifact `a` was kept: it was started `n` times, no other artifact was, and
the compiler was not called. -/
structure Kept (p : Pipeline σ) (a : Artifact) (n : Nat) (q : Pipeline σ) : Prop where
  held : q.cache.held = some a
  gateway : q.gateway = p.gateway
  journal : ∃ since, q.journal.toList = p.journal.toList ++ since ∧
    starts since = List.replicate n a ∧ calls since = 0

theorem Kept.trans {a : Artifact} {m n : Nat} (h : p.Kept a m q) (h' : q.Kept a n r) :
    p.Kept a (m + n) r := by
  obtain ⟨since, hj, hs, hc⟩ := h.journal
  obtain ⟨later, hj', hs', hc'⟩ := h'.journal
  refine ⟨h'.held, h'.gateway.trans h.gateway, since ++ later, ?_, ?_, ?_⟩
  · rw [hj', hj, List.append_assoc]
  · rw [starts_append, hs, hs', List.replicate_append_replicate]
  · rw [calls_append, hc, hc']

/-- With an artifact in the cache, a run starts it. -/
theorem starts_script_of_held {a : Artifact} (hh : p.cache.held = some a) (c : Command) :
    starts (p.script c) = List.replicate (if c.isRun then 1 else 0) a := by
  rw [starts_script, launched, lookup_of_held hh]
  cases c.isRun <;> rfl

/-- Nothing is lost if only fields change that the cache does not depend on. -/
theorem Kept.of_quiet {a : Artifact} (hh : p.cache.held = some a) (hc : q.cache = p.cache)
    (hg : q.gateway = p.gateway) (hj : q.journal = p.journal) : p.Kept a 0 q :=
  ⟨by rw [hc, hh], hg, [], by rw [hj, List.append_nil], rfl, rfl⟩

theorem kept_act {a : Artifact} (hh : p.cache.held = some a) {c : Command}
    (hc : c.isEdit = false) : p.Kept a (if c.isRun then 1 else 0) (p.act c) := by
  have hcalls : calls (p.script c) = 0 := by
    rw [calls_script, hh]
    simp
  have hsame : (p.silently c).cache = p.cache ∧ (p.silently c).gateway = p.gateway := by
    cases c with
    | compile => rw [silently, stored_of_held hh]; exact ⟨rfl, rfl⟩
    | run => rw [silently, stored_of_held hh]; exact ⟨rfl, rfl⟩
    | edit text => cases hc
    | notifyEdit => cases hc
    | setLimits limits => exact ⟨rfl, rfl⟩
  refine ⟨?_, ?_, p.script c, p.journal_act c, starts_script_of_held hh c, hcalls⟩
  · rw [act_eq, recordAll_cache, hsame.1, hh]
  · rw [act_eq, recordAll_gateway, hsame.2]

theorem kept_move {a : Artifact} (hh : p.cache.held = some a) {m : Move}
    (hm : m.isEdit = false) : p.Kept a (if m.isRun then 1 else 0) (p.move m) := by
  cases m with
  | command c => exact kept_act hh hm
  | outside text => exact .of_quiet hh rfl rfl rfl
  | behave runner => exact .of_quiet hh rfl rfl rfl

/-- **An artifact is kept until an edit event comes**, and every run starts it. -/
theorem kept_moveAll {a : Artifact} (ms : List Move) : ∀ {p : Pipeline σ},
    p.cache.held = some a → (∀ m ∈ ms, m.isEdit = false) →
      p.Kept a (ms.countP Move.isRun) (p.moveAll ms) := by
  induction ms with
  | nil => intro p hh _; exact .of_quiet hh rfl rfl rfl
  | cons m ms ih =>
    intro p hh hms
    have hfirst := kept_move hh (hms m List.mem_cons_self)
    have hrest := ih hfirst.held fun m' hm' => hms m' (List.mem_cons_of_mem m hm')
    rw [List.countP_cons, Nat.add_comm]
    exact hfirst.trans hrest

/-! ## The records of a failure -/

/-- The failure that a command replies, if it replies one. -/
def failure? (p : Pipeline σ) : Command → Option Failure
  | .compile =>
    match p.compile.1 with
    | .ok _ => none
    | .error d => some (.diagnostic d)
  | .run =>
    match p.run.1 with
    | .ok _ => none
    | .error why => some why
  | _ => none

/-- The action that led from `p` to `q` has failed by `why`: `os` is all that it noted, and every
record says so. -/
structure Failed (p : Pipeline σ) (why : Failure) (os : List Occurrence) (q : Pipeline σ) :
    Prop where
  journal : q.journal.toList = p.journal.toList ++ os
  state : q.state = .failed why
  /-- The last change of state is the one into the failure. -/
  change : ∃ s, (changes os).getLast? = some ⟨s, .failed why⟩
  told : ∀ (i : Nat) (told : Array Transition), p.observers[i]? = some told →
    q.observers[i]? = some (told ++ changes os)
  console : q.console = p.console.afterAll (events os)
  /-- The last lines are those of the failure. -/
  lines : ∃ before, events os = .cleared :: (before ++ why.consoleLines).map .line

theorem Failed.of_script {why : Failure} {c : Command} (hstate : (p.act c).state = .failed why)
    (hchange : ∃ s, (changes (p.script c)).getLast? = some ⟨s, .failed why⟩)
    (hlines : ∃ before : List String,
      events (p.script c) = .cleared :: (before ++ why.consoleLines).map .line) :
    p.Failed why (p.script c) (p.act c) := by
  refine ⟨p.journal_act c, hstate, hchange, ?_, p.console_act c, hlines⟩
  intro i told hi
  rw [observers_act, Array.getElem?_map, hi]
  rfl

/-- A compile that fails. -/
theorem failed_compile {d : Diagnostic} (hl : p.lookup.1 = .error d) :
    p.Failed (.diagnostic d) (p.script .compile) (p.act .compile) := by
  have hstate : (p.act .compile).state = .failed (.diagnostic d) := by
    rw [act, state_compile, hl]; rfl
  refine .of_script hstate ⟨.compiling, ?_⟩ ⟨[], ?_⟩
  · rw [script, changes_cons, changes_compiling, hl]; rfl
  · rw [events_compile, compile_eq, hl]; rfl

/-- The script of a run that gets no artifact is that of the compile. -/
theorem script_run_of_error {d : Diagnostic} (hl : p.lookup.1 = .error d) :
    p.script .run = p.script .compile := by
  rw [script, script, performing_of_error hl, List.append_nil,
    opening_of_empty (held_of_lookup_error hl)]

theorem act_run_of_error {d : Diagnostic} (hl : p.lookup.1 = .error d) :
    p.act .run = p.act .compile := by
  rw [act_eq, act_eq, script_run_of_error hl]
  rfl

/-- A run that crashes. -/
theorem failed_run {a : Artifact} {crash : Crash} (hl : p.lookup.1 = .ok a)
    (hr : (p.runner p.sandbox a.bytes).result = .error crash) :
    p.Failed (.crash crash) (p.script .run) (p.act .run) := by
  have hstate : (p.act .run).state = .failed (.crash crash) := by
    rw [act, state_run_of_ok hl, hr]; rfl
  have hreport : crashReport p.run.1 = crash.consoleLines := by
    rw [run_of_ok hl, crashReport_report, hr]; rfl
  refine .of_script hstate ⟨.running, ?_⟩ ?_
  · rw [script, changes_append, performing_of_ok hl, changes_running, hr]
    simp [State.afterRun]
  · rw [events_run, runLines, hreport]
    exact ⟨_, rfl⟩

/-- What a command that fails has come upon: a text that does not compile, or a program that
crashes. -/
theorem failure?_eq_some {c : Command} {why : Failure} (h : p.failure? c = some why) :
    (∃ d, why = .diagnostic d ∧ p.lookup.1 = .error d ∧ (c = .compile ∨ c = .run)) ∨
    ∃ crash a, why = .crash crash ∧ c = .run ∧ p.lookup.1 = .ok a ∧
      (p.runner p.sandbox a.bytes).result = .error crash := by
  cases c with
  | compile =>
    rw [failure?, compile_eq] at h
    cases hl : p.lookup.1 with
    | ok a => rw [hl] at h; cases h
    | error d =>
      rw [hl] at h
      cases h
      exact .inl ⟨d, rfl, rfl, .inl rfl⟩
  | run =>
    cases hl : p.lookup.1 with
    | error d =>
      rw [failure?, run_of_error hl] at h
      cases h
      exact .inl ⟨d, rfl, rfl, .inr rfl⟩
    | ok a =>
      rw [failure?, run_of_ok hl] at h
      cases hr : (p.runner p.sandbox a.bytes).result with
      | ok n => rw [Performance.report_of_ok _ hr] at h; cases h
      | error crash =>
        rw [Performance.report_of_error _ hr] at h
        cases h
        exact .inr ⟨crash, a, rfl, rfl, rfl, hr⟩
  | edit text => cases h
  | notifyEdit => cases h
  | setLimits limits => cases h

/-- **The records of a failure agree, and the right artifact survives.** If an action fails, then the
state, the last change that observers were told of and the last lines on the console are those of
the failure that it replies. After a diagnostic the cache is empty and no program was started. After
a crash the cache holds the artifact that was started, and as long as no edit event comes, each run
starts this artifact again and the compiler is not called. -/
theorem failure_recorded (p : Pipeline σ) {c : Command} {why : Failure}
    (hc : p.failure? c = some why) :
    ∃ os, p.Failed why os (p.act c) ∧
      (∀ d, why = .diagnostic d → (p.act c).cache.held = none ∧ starts os = []) ∧
      (∀ crash, why = .crash crash → ∃ a,
        (p.act c).cache.held = some a ∧ starts os = [a] ∧
        ∀ ms : List Move, (∀ m ∈ ms, m.isEdit = false) →
          (p.act c).Kept a (ms.countP Move.isRun) ((p.act c).moveAll ms)) := by
  obtain ⟨d, rfl, hl, hcase⟩ | ⟨crash, a, rfl, rfl, hl, hr⟩ := failure?_eq_some hc
  · have hact : p.act c = p.act .compile := by
      obtain rfl | rfl := hcase
      · rfl
      · exact act_run_of_error hl
    have hempty : (p.act .compile).cache.held = none := by rw [act, cache_compile, hl]; rfl
    have hstarts : starts (p.script .compile) = [] := p.starts_script .compile
    rw [hact]
    refine ⟨p.script .compile, failed_compile hl, fun _ _ => ⟨hempty, hstarts⟩, ?_⟩
    intro crash hc
    cases hc
  · have hheld : (p.act .run).cache.held = some a := by rw [act, cache_run, hl]; rfl
    have hstarts : starts (p.script .run) = [a] := by
      rw [starts_script, launched, hl]; rfl
    refine ⟨p.script .run, failed_run hl hr, ?_, ?_⟩
    · intro d hd
      cases hd
    · rintro crash' -
      exact ⟨a, hheld, hstarts, fun ms hms => kept_moveAll ms hheld hms⟩

/-- A program that crashes whenever it is run: it is compiled once and started three times. -/
theorem failure_recorded_crash :
    let compiler : Compiler UInt8 := fun n _ => (.bytes [n], n + 1)
    let runner : Runner := fun _ _ => ⟨["one"], .error ⟨.trap, "unreachable"⟩⟩
    let p := onto (.new none) compiler 7 ⟨"env", none, .unlimited, 9⟩ runner "main"
    let q := (p.act .run).moveAll [.command .run, .command .compile, .command .run]
    p.failure? .run = some (.crash ⟨.trap, "unreachable"⟩) ∧
      (p.act .run).state = .failed (.crash ⟨.trap, "unreachable"⟩) ∧
      q.cache.held = some ⟨0, [7]⟩ ∧ q.gateway.invocations = 1 := by
  intro compiler runner p q
  have hfails : p.failure? .run = some (.crash ⟨.trap, "unreachable"⟩) := rfl
  obtain ⟨os, hfailed, -, hcrash⟩ := failure_recorded p hfails
  obtain ⟨a, hheld, -, hkept⟩ := hcrash _ rfl
  obtain rfl : a = ⟨0, [7]⟩ := by
    have hfirst : (p.act .run).cache.held = some ⟨0, [7]⟩ := rfl
    rw [hfirst] at hheld
    exact (Option.some.inj hheld).symm
  have hq := hkept [.command .run, .command .compile, .command .run] (by simp [Move.isEdit,
    Command.isEdit])
  refine ⟨hfails, hfailed.state, hq.held, ?_⟩
  rw [hq.gateway]
  rfl

end Pipeline

end Playground
