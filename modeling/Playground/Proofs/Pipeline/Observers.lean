import Playground.Proofs.Pipeline.Held

/-!
# What observers are told

An observer can join a pipeline at any time and is told of every change of state from then on.

* `State.MayBecome` — the changes of state that there are.
* `Walk` — such changes, each from where the one before has led to.
* `Coherent.walk_script` — every command takes a coherent pipeline for a walk.
* `Witnessed` — what happened between two points in time, and that all observers of the first one
  were told of it.
* `told_since_joining` — an observer is told of exactly the changes since it joined, and they are a
  walk from the state at that time to the present one.
-/

set_option autoImplicit false

namespace Playground

open Script

/-! ## Walks -/

/-- The changes of state that a pipeline makes. -/
inductive State.MayBecome : State → State → Prop where
  | compile : MayBecome .idle .compiling
  | compileAgain : MayBecome .compiled .compiling
  | compileFailed (why : Failure) : MayBecome (.failed why) .compiling
  | accepted : MayBecome .compiling .compiled
  | rejected (d : Diagnostic) : MayBecome .compiling (.failed (.diagnostic d))
  | run : MayBecome .compiled .running
  | runCrashed (crash : Crash) : MayBecome (.failed (.crash crash)) .running
  | finished : MayBecome .running .compiled
  | crashed (crash : Crash) : MayBecome .running (.failed (.crash crash))
  | edited : MayBecome .compiled .idle

namespace State.MayBecome

variable {s t : State}

theorem ne (h : s.MayBecome t) : s ≠ t := by
  cases h <;> simp

/-- A program is started only if there is something to run. -/
theorem of_running (h : s.MayBecome .running) :
    s ≠ .idle ∧ ∀ d, s ≠ .failed (.diagnostic d) := by
  cases h <;> simp

theorem afterCompile (result : Except Diagnostic Artifact) :
    State.compiling.MayBecome (.afterCompile result) := by
  cases result with
  | ok a => exact accepted
  | error d => exact rejected d

theorem afterRun (result : Except Crash Nat) : State.running.MayBecome (.afterRun result) := by
  cases result with
  | ok n => exact finished
  | error crash => exact crashed crash

end State.MayBecome

/-- Changes that lead from one state to another, each from where the one before has led to. -/
inductive Walk : State → List Transition → State → Prop where
  | stay (s : State) : Walk s [] s
  | go {s t u : State} {cs : List Transition} :
      s.MayBecome t → Walk t cs u → Walk s (⟨s, t⟩ :: cs) u

namespace Walk

variable {s t u : State} {cs ds : List Transition}

theorem append (h : Walk s cs t) (h' : Walk t ds u) : Walk s (cs ++ ds) u := by
  induction h with
  | stay s => exact h'
  | go hmay _ ih => exact .go hmay (ih h')

/-- Where a walk ends is where its last change has led to. -/
theorem end_eq (h : Walk s cs t) : cs.foldl (fun _ c => c.target) s = t := by
  induction h with
  | stay s => rfl
  | go _ _ ih => exact ih

theorem mayBecome (h : Walk s cs t) : ∀ c ∈ cs, c.source.MayBecome c.target := by
  induction h with
  | stay s => intro c hc; cases hc
  | go hmay _ ih =>
    intro c hc
    rcases List.mem_cons.mp hc with rfl | hc
    · exact hmay
    · exact ih c hc

end Walk

namespace Pipeline

variable {σ : Type} {p q r : Pipeline σ}

/-! ## Commands are walks -/

/-- A coherent pipeline can compile, since no action is going on. -/
theorem Coherent.mayCompile (h : p.Coherent) : p.state.MayBecome .compiling := by
  cases hs : p.state with
  | idle => exact .compile
  | compiling => exact absurd hs h.not_compiling
  | compiled => exact .compileAgain
  | running => exact absurd hs h.not_running
  | failed why => exact .compileFailed why

/-- A coherent pipeline that holds an artifact can run it: before the first compile, and after a
failed one, it holds none. -/
theorem Coherent.mayRun (h : p.Coherent) (hheld : p.cache.held.isSome) :
    p.state.MayBecome .running := by
  cases hs : p.state with
  | idle => rw [h.idle hs] at hheld; cases hheld
  | compiling => exact absurd hs h.not_compiling
  | compiled => exact .run
  | running => exact absurd hs h.not_running
  | failed why =>
    cases why with
    | diagnostic d => rw [h.diagnosed d hs] at hheld; cases hheld
    | crash crash => exact .runCrashed crash

theorem Coherent.walk_compile (h : p.Coherent) :
    Walk p.state (changes (p.script .compile)) (.afterCompile p.lookup.1) := by
  have hchanges : changes (p.script .compile) =
      [⟨p.state, .compiling⟩, ⟨.compiling, .afterCompile p.lookup.1⟩] := by
    simp [script, changes_compiling]
  rw [hchanges]
  exact .go h.mayCompile (.go (.afterCompile _) (.stay _))

theorem walk_running {s : State} (h : s.MayBecome .running) (a : Artifact) (r : Performance) :
    Walk s (changes (running s a r)) (.afterRun r.result) := by
  rw [changes_running]
  exact .go h (.go (.afterRun _) (.stay _))

theorem Coherent.walk_run (h : p.Coherent) : ∃ t, Walk p.state (changes (p.script .run)) t := by
  rw [script, changes_append]
  cases hl : p.lookup.1 with
  | error d =>
    have hopening : p.opening = p.script .compile := opening_of_empty (held_of_lookup_error hl)
    rw [performing_of_error hl, hopening]
    exact ⟨_, h.walk_compile.append (.stay _)⟩
  | ok a =>
    rw [performing_of_ok hl]
    cases hh : p.cache.held with
    | some b =>
      have hrun : p.state.MayBecome .running := h.mayRun (by rw [hh]; rfl)
      rw [opening_of_held hh, launchState, hh]
      exact ⟨_, walk_running hrun a _⟩
    | none =>
      -- the compile has led to `compiled`, and there the run begins
      have hcompile := h.walk_compile
      rw [hl] at hcompile
      have hopening : p.opening = p.script .compile := opening_of_empty hh
      rw [hopening, launchState, hh]
      exact ⟨_, hcompile.append (walk_running .run a _)⟩

theorem walk_editing (s : State) : ∃ t, Walk s (changes (editing s)) t := by
  by_cases hs : s = .compiled
  · rw [editing, if_pos hs, hs]
    exact ⟨_, .go .edited (.stay _)⟩
  · rw [editing, if_neg hs]
    exact ⟨_, .stay _⟩

/-- **Every command takes a coherent pipeline for a walk** from its state to the one it leaves. -/
theorem Coherent.walk_script (h : p.Coherent) (c : Command) :
    Walk p.state (changes (p.script c)) (p.act c).state := by
  have hwalk : ∃ t, Walk p.state (changes (p.script c)) t := by
    cases c with
    | compile => exact ⟨_, h.walk_compile⟩
    | run => exact h.walk_run
    | edit text => exact walk_editing p.state
    | notifyEdit => exact walk_editing p.state
    | setLimits limits => exact ⟨_, .stay _⟩
  obtain ⟨t, ht⟩ := hwalk
  have hend : (p.act c).state = t := by rw [state_act, endState]; exact ht.end_eq
  rw [hend]
  exact ht

end Pipeline

/-! ## Observers that join -/

/-- What can happen to a pipeline that is observed. -/
inductive Happening where
  | moved (m : Move)
  /-- A further observer is registered. -/
  | joined

namespace Pipeline

variable {σ : Type} {p q r : Pipeline σ}

/-- The pipeline after something happened. -/
def undergo (p : Pipeline σ) : Happening → Pipeline σ
  | .moved m => p.move m
  | .joined => p.observe

/-- The pipeline after things happened, one after another. -/
def undergoAll (p : Pipeline σ) (hs : List Happening) : Pipeline σ := hs.foldl undergo p

/-- An observer that joins does not take the place of another one. -/
theorem observers_observe {i : Nat} {told : Array Transition} (hi : p.observers[i]? = some told) :
    p.observe.observers[i]? = some told := by
  have hlt : i < p.observers.size := (Array.getElem?_eq_some_iff.mp hi).1
  have hne : i ≠ p.observers.size := by omega
  rw [observe, Array.getElem?_push, if_neg hne, hi]

/-- From `p` to `q` exactly `os` occurred, the changes among it are a walk, and all observers of `p`
were told of them. -/
structure Witnessed (p : Pipeline σ) (os : List Occurrence) (q : Pipeline σ) : Prop where
  journal : q.journal.toList = p.journal.toList ++ os
  told : ∀ (i : Nat) (told : Array Transition), p.observers[i]? = some told →
    q.observers[i]? = some (told ++ changes os)
  walk : Walk p.state (changes os) q.state

namespace Witnessed

theorem trans {os ps : List Occurrence} (h : p.Witnessed os q) (h' : q.Witnessed ps r) :
    p.Witnessed (os ++ ps) r := by
  refine ⟨?_, ?_, ?_⟩
  · rw [h'.journal, h.journal, List.append_assoc]
  · intro i told hi
    have hjoin : told ++ changes os ++ changes ps = told ++ changes (os ++ ps) := by
      apply Array.ext'
      simp
    rw [h'.told i _ (h.told i told hi), hjoin]
  · rw [changes_append]
    exact h.walk.append h'.walk

/-- Nothing occurs if only fields change that no one is told of. -/
theorem of_quiet (hj : q.journal = p.journal)
    (ho : ∀ (i : Nat) (told : Array Transition), p.observers[i]? = some told →
      q.observers[i]? = some told)
    (hs : q.state = p.state) : p.Witnessed [] q := by
  refine ⟨?_, ?_, ?_⟩
  · rw [hj, List.append_nil]
  · intro i told hi
    rw [ho i told hi]
    simp
  · rw [hs]
    exact .stay _

end Witnessed

theorem Coherent.witnessed_act (h : p.Coherent) (c : Command) :
    p.Witnessed (p.script c) (p.act c) := by
  refine ⟨journal_act p c, ?_, h.walk_script c⟩
  intro i told hi
  rw [observers_act, Array.getElem?_map, hi]
  rfl

theorem Coherent.witnessed (h : p.Coherent) (x : Happening) :
    ∃ os, p.Witnessed os (p.undergo x) := by
  cases x with
  | joined => exact ⟨[], .of_quiet rfl (fun _ _ hi => observers_observe hi) rfl⟩
  | moved m =>
    cases m with
    | command c => exact ⟨_, h.witnessed_act c⟩
    | outside text => exact ⟨[], .of_quiet rfl (fun _ _ hi => hi) rfl⟩
    | behave runner => exact ⟨[], .of_quiet rfl (fun _ _ hi => hi) rfl⟩

theorem Coherent.undergo (h : p.Coherent) (x : Happening) : (p.undergo x).Coherent := by
  cases x with
  | joined => exact h.congr rfl rfl rfl
  | moved m => exact h.move m

theorem Coherent.undergoAll : ∀ (xs : List Happening) {p : Pipeline σ}, p.Coherent →
    (p.undergoAll xs).Coherent
  | [], _, h => h
  | x :: xs, _, h => undergoAll xs (h.undergo x)

theorem Coherent.witnessed_all (xs : List Happening) : ∀ {p : Pipeline σ}, p.Coherent →
    ∃ os, p.Witnessed os (p.undergoAll xs) := by
  induction xs with
  | nil => intro p _; exact ⟨[], .of_quiet rfl (fun _ _ hi => hi) rfl⟩
  | cons x xs ih =>
    intro p h
    obtain ⟨os, hos⟩ := h.witnessed x
    obtain ⟨ps, hps⟩ := ih (h.undergo x)
    exact ⟨os ++ ps, hos.trans hps⟩

/-- **An observer is told of exactly the changes since it joined**, and so is everyone who was there
before. The changes lead from the state at that time to the present one, each from where the one
before has led to; no state becomes itself, and no program starts without an artifact. -/
theorem told_since_joining (console : Console) (compiler : Compiler σ) (start : σ)
    (sandbox : Sandbox) (runner : Runner) (text : String) (before after : List Happening) :
    let p := (onto console compiler start sandbox runner text).undergoAll before
    let q := (p.undergo .joined).undergoAll after
    ∃ since : List Occurrence,
      q.journal.toList = p.journal.toList ++ since ∧
      q.observers[p.observers.size]? = some (changes since).toArray ∧
      (∀ (i : Nat) (told : Array Transition), p.observers[i]? = some told →
        q.observers[i]? = some (told ++ changes since)) ∧
      Walk p.state (changes since) q.state ∧
      ∀ c ∈ changes since, c.source ≠ c.target ∧
        (c.target = .running → c.source ≠ .idle ∧ ∀ d, c.source ≠ .failed (.diagnostic d)) := by
  intro p q
  have hp : p.Coherent :=
    (coherent_onto console compiler start sandbox runner text).undergoAll before
  obtain ⟨os, hos⟩ := (hp.undergo .joined).witnessed_all after
  have hnew : (p.undergo .joined).observers[p.observers.size]? = some #[] :=
    Array.getElem?_push_size
  refine ⟨os, hos.journal, ?_, ?_, hos.walk, ?_⟩
  · rw [hos.told _ _ hnew]
    simp
  · intro i told hi
    exact hos.told i told (observers_observe hi)
  · intro c hc
    have hmay := hos.walk.mayBecome c hc
    refine ⟨hmay.ne, ?_⟩
    intro hrunning
    rw [hrunning] at hmay
    exact hmay.of_running

end Pipeline

end Playground
