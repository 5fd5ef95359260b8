import Playground.Proofs.Pipeline.Deliveries
import Playground.Proofs.Pipeline.Observers

/-!
# Compilers that misbehave

A compiler may break down in a call, or answer without a byte. This file says that either is a
compile that fails, and nothing more.

* `Answer.tamed`, `Compiler.tamed` — the failure in place of an answer that is none.
* `Compiler.Matches` — two compilers whose answers are worth the same;
  `undergoAll_replaceCompiler` says that a pipeline cannot tell them apart.
* `Alike` — two pipelines of which everything is the same but the compiler.
* `Asks` — the next action asks the compiler, once, and does what it answers.
* `misbehaviour_is_failure` — whatever happens, a pipeline is like the one around the tamed compiler,
  and after an action that failed the next one asks the compiler again.
-/

set_option autoImplicit false

namespace Playground

open Script

/-! ## Tamed compilers -/

/-- The failure in place of a breakdown or of an artifact without bytes; any other answer as it
is. -/
def Answer.tamed : Answer → Answer
  | bytes [] => failure "compiler produced an empty artifact"
  | breakdown (some message) => failure ("compiler panicked: " ++ message)
  | breakdown none => failure "compiler panicked: unknown panic payload"
  | answer => answer

theorem Answer.artifact_tamed (answer : Answer) : answer.tamed.artifact = answer.artifact := by
  cases answer with
  | bytes artifact => cases artifact <;> rfl
  | failure payload => rfl
  | breakdown message => cases message <;> rfl

theorem Answer.artifact_of_tamed {answer : Answer} {payload : String}
    (h : answer.tamed = .failure payload) : answer.artifact = .error (.ofPayload payload) := by
  rw [← artifact_tamed, h]
  rfl

theorem Answer.artifact_of_bytes {bytes : List UInt8} (h : bytes ≠ []) :
    (Answer.bytes bytes).artifact = .ok bytes := by
  cases bytes with
  | nil => exact absurd rfl h
  | cons b rest => rfl

variable {σ : Type}

/-- The compiler with every answer tamed. -/
def Compiler.tamed (compiler : Compiler σ) : Compiler σ := fun state source =>
  ((compiler state source).1.tamed, (compiler state source).2)

/-- The answers of the two compilers are worth the same, and leave the same states. -/
def Compiler.Matches (compiler other : Compiler σ) : Prop := ∀ state source,
  (other state source).1.artifact = (compiler state source).1.artifact ∧
    (other state source).2 = (compiler state source).2

theorem Compiler.matches_tamed (compiler : Compiler σ) : compiler.Matches compiler.tamed :=
  fun state source => ⟨(compiler state source).1.artifact_tamed, rfl⟩

/-! ## Another compiler in the same place -/

/-- The gateway to another compiler. -/
def Gateway.replaceCompiler (g : Gateway σ) (compiler : Compiler σ) : Gateway σ := { g with compiler }

theorem Gateway.compile_replaceCompiler {g : Gateway σ} {other : Compiler σ}
    (h : g.compiler.Matches other) (source : String) :
    (g.replaceCompiler other).compile source =
      ((g.compile source).1, (g.compile source).2.replaceCompiler other) := by
  obtain ⟨hworth, hstate⟩ := h g.state source
  unfold compile replaceCompiler
  dsimp only
  rw [hworth, hstate]
  cases (g.compiler g.state source).1.artifact <;> rfl

namespace Pipeline

variable {p q : Pipeline σ} {other : Compiler σ}

/-- The pipeline around another compiler. -/
def replaceCompiler (p : Pipeline σ) (compiler : Compiler σ) : Pipeline σ :=
  { p with gateway := p.gateway.replaceCompiler compiler }

theorem recordAll_replaceCompiler (p : Pipeline σ) (compiler : Compiler σ) (os : List Occurrence) :
    (p.replaceCompiler compiler).recordAll os = (p.recordAll os).replaceCompiler compiler := by
  rw [recordAll_eq, recordAll_eq]
  rfl

section

variable (h : p.gateway.compiler.Matches other)

include h

/-- The present text comes to the same. -/
theorem lookup_replaceCompiler :
    (p.replaceCompiler other).lookup = (p.lookup.1, p.lookup.2.replaceCompiler other) := by
  cases hh : p.cache.held with
  | some a => rw [lookup_of_held hh, lookup_of_held (p := p.replaceCompiler other) hh]; rfl
  | none =>
    rw [lookup_of_empty hh, lookup_of_empty (p := p.replaceCompiler other) hh]
    exact Gateway.compile_replaceCompiler h p.text

theorem stored_replaceCompiler :
    (p.replaceCompiler other).stored = p.stored.replaceCompiler other := by
  rw [stored, lookup_replaceCompiler h]
  rfl

theorem call_replaceCompiler : (p.replaceCompiler other).call = p.call := by
  rw [call, lookup_replaceCompiler h]
  rfl

theorem script_replaceCompiler (c : Command) : (p.replaceCompiler other).script c = p.script c := by
  have hcall := call_replaceCompiler h
  have hlookup := congrArg Prod.fst (lookup_replaceCompiler h)
  cases c with
  | compile => simp only [script, hcall, hlookup]; rfl
  | run => simp only [script, opening, performing, hcall, hlookup]; rfl
  | edit text => rfl
  | notifyEdit => rfl
  | setLimits limits => rfl

/-- **A command does the same around a compiler that matches.** -/
theorem act_replaceCompiler (c : Command) :
    (p.replaceCompiler other).act c = (p.act c).replaceCompiler other := by
  have hsilently : (p.replaceCompiler other).silently c = (p.silently c).replaceCompiler other := by
    cases c with
    | compile => exact stored_replaceCompiler h
    | run => exact stored_replaceCompiler h
    | edit text => rfl
    | notifyEdit => rfl
    | setLimits limits => rfl
  rw [act_eq, act_eq, script_replaceCompiler h, hsilently, recordAll_replaceCompiler]

theorem compile_replaceCompiler : (p.replaceCompiler other).compile.1 = p.compile.1 := by
  rw [compile_eq, compile_eq, lookup_replaceCompiler h]

theorem run_replaceCompiler : (p.replaceCompiler other).run.1 = p.run.1 := by
  have hlookup := congrArg Prod.fst (lookup_replaceCompiler h)
  cases hl : p.lookup.1 with
  | ok a => rw [run_of_ok hl, run_of_ok (hlookup.trans hl)]; rfl
  | error d => rw [run_of_error hl, run_of_error (hlookup.trans hl)]

theorem undergo_replaceCompiler (x : Happening) :
    (p.replaceCompiler other).undergo x = (p.undergo x).replaceCompiler other := by
  cases x with
  | joined => rfl
  | moved m =>
    cases m with
    | command c => exact act_replaceCompiler h c
    | outside text => rfl
    | behave runner => rfl

end

theorem compiler_act (p : Pipeline σ) (c : Command) :
    (p.act c).gateway.compiler = p.gateway.compiler := by
  have hlookup : p.lookup.2.compiler = p.gateway.compiler := by
    cases hh : p.cache.held with
    | some a => rw [lookup_of_held hh]
    | none => rw [lookup_of_empty hh, Gateway.compile_compiler]
  rw [act_eq, recordAll_gateway]
  cases c with
  | compile => exact hlookup
  | run => exact hlookup
  | edit text => rfl
  | notifyEdit => rfl
  | setLimits limits => rfl

theorem compiler_undergo (p : Pipeline σ) (x : Happening) :
    (p.undergo x).gateway.compiler = p.gateway.compiler := by
  cases x with
  | joined => rfl
  | moved m =>
    cases m with
    | command c => exact p.compiler_act c
    | outside text => rfl
    | behave runner => rfl

/-- **A pipeline cannot tell compilers that match apart**, whatever happens. -/
theorem undergoAll_replaceCompiler (xs : List Happening) : ∀ {p : Pipeline σ},
    p.gateway.compiler.Matches other →
      (p.replaceCompiler other).undergoAll xs = (p.undergoAll xs).replaceCompiler other ∧
        (p.undergoAll xs).gateway.compiler.Matches other := by
  induction xs with
  | nil => intro p h; exact ⟨rfl, h⟩
  | cons x xs ih =>
    intro p h
    have hnext : (p.undergo x).gateway.compiler.Matches other := by
      rw [compiler_undergo]
      exact h
    have hrest := ih hnext
    rw [← undergo_replaceCompiler h] at hrest
    exact hrest

/-- Everything is the same but the compilers: what the next action replies, and all that is seen of
a pipeline. -/
structure Alike (p q : Pipeline σ) : Prop where
  compile : q.compile.1 = p.compile.1
  run : q.run.1 = p.run.1
  text : q.text = p.text
  state : q.state = p.state
  cache : q.cache = p.cache
  /-- The lines that are kept, and the events that the renderer took in. -/
  console : q.console = p.console
  /-- What each observer was told. -/
  observers : q.observers = p.observers
  journal : q.journal = p.journal
  invocations : q.gateway.invocations = p.gateway.invocations
  /-- The compilers themselves are in the same state. -/
  backend : q.gateway.state = p.gateway.state

theorem alike_replaceCompiler (h : p.gateway.compiler.Matches other) :
    p.Alike (p.replaceCompiler other) where
  compile := compile_replaceCompiler h
  run := run_replaceCompiler h
  text := rfl
  state := rfl
  cache := rfl
  console := rfl
  observers := rfl
  journal := rfl
  invocations := rfl
  backend := rfl

/-! ## The next action -/

/-- What the compiler would answer to the present text. -/
def answered (p : Pipeline σ) : Answer := (p.gateway.compiler p.gateway.state p.text).1

/-- Either action fails by a diagnostic, which is all that it leaves. -/
structure Fails (p : Pipeline σ) (d : Diagnostic) : Prop where
  compile : p.compile.1 = .error d
  run : p.run.1 = .error (.diagnostic d)
  state : ∀ c : Command, c.isAction → (p.act c).state = .failed (.diagnostic d)
  held : ∀ c : Command, c.isAction → (p.act c).cache.held = none

/-- Either action gets an artifact from the compiler, and a run starts it. -/
structure Succeeds (p : Pipeline σ) (a : Artifact) : Prop where
  compile : p.compile.1 = .ok a
  compiled : (p.act .compile).state = .compiled
  run : p.run.1 = (p.runner p.sandbox a.bytes).report true
  ran : (p.act .run).state = .afterRun (p.runner p.sandbox a.bytes).result
  held : ∀ c : Command, c.isAction → (p.act c).cache.held = some a

/-- The next action asks the compiler, once, and does what it answers. -/
structure Asks (p : Pipeline σ) : Prop where
  once : ∀ c : Command, c.isAction →
    (p.act c).gateway.invocations = p.gateway.invocations + 1
  bytes : ∀ bytes, p.answered = .bytes bytes → bytes ≠ [] →
    ∃ a : Artifact, a.bytes = bytes ∧ p.Succeeds a
  failure : ∀ payload, p.answered.tamed = .failure payload → p.Fails (.ofPayload payload)

theorem fails_of_lookup {d : Diagnostic} (hl : p.lookup.1 = .error d) : p.Fails d where
  compile := by rw [compile_eq, hl]
  run := by rw [run_of_error hl]
  state := by
    intro c hc
    cases c with
    | compile => rw [act, state_compile, hl]; rfl
    | run => rw [act, state_run_of_error hl]
    | edit text => cases hc
    | notifyEdit => cases hc
    | setLimits limits => cases hc
  held := by
    intro c hc
    rw [held_of_isAction p hc, hl]
    rfl

theorem succeeds_of_lookup {a : Artifact} (hh : p.cache.held = none) (hl : p.lookup.1 = .ok a) :
    p.Succeeds a where
  compile := by rw [compile_eq, hl]
  compiled := by rw [act, state_compile, hl]; rfl
  run := by rw [run_of_ok hl, hh]; rfl
  ran := by rw [act, state_run_of_ok hl]
  held := by
    intro c hc
    rw [held_of_isAction p hc, hl]
    rfl

/-- What the present text comes to is what the answer of the compiler is worth. -/
theorem lookup_of_answered (hh : p.cache.held = none) :
    p.lookup.1 = p.answered.artifact.map (⟨p.gateway.produced, ·⟩) := by
  rw [lookup_of_empty hh, Gateway.compile_result]
  rfl

/-- **With an empty cache, the next action asks the compiler.** -/
theorem asks_of_empty (hh : p.cache.held = none) : p.Asks where
  once := by
    intro c hc
    rw [gateway_of_isAction p hc, invocations_lookup, hh]
    rfl
  bytes := by
    intro bytes hanswer hne
    refine ⟨⟨p.gateway.produced, bytes⟩, rfl, succeeds_of_lookup hh ?_⟩
    rw [lookup_of_answered hh, hanswer, Answer.artifact_of_bytes hne]
    rfl
  failure := by
    intro payload hanswer
    refine fails_of_lookup ?_
    rw [lookup_of_answered hh, Answer.artifact_of_tamed hanswer]
    rfl

end Pipeline

/-- Whether the compiler may be asked: the two actions. -/
def Happening.isAction : Happening → Bool
  | moved m => m.isAction
  | joined => false

namespace Pipeline

variable {p : Pipeline σ}

/-- The cache stays empty until an action comes. -/
theorem held_undergoAll_of_empty (xs : List Happening) : ∀ {p : Pipeline σ}, p.cache.held = none →
    (∀ x ∈ xs, x.isAction = false) → (p.undergoAll xs).cache.held = none := by
  induction xs with
  | nil => intro p hh _; exact hh
  | cons x xs ih =>
    intro p hh hxs
    refine ih ?_ fun y hy => hxs y (List.mem_cons_of_mem x hy)
    have hx := hxs x List.mem_cons_self
    cases x with
    | joined => exact hh
    | moved m =>
      cases m with
      | outside text => exact hh
      | behave runner => exact hh
      | command c =>
        cases c with
        | compile => cases hx
        | run => cases hx
        | edit text => exact congrArg Cache.held (cache_notifyEdit (p.replaceText text))
        | notifyEdit => exact congrArg Cache.held (cache_notifyEdit p)
        | setLimits limits => exact hh

/-- **A compiler that misbehaves has failed to compile, and that is all.** Whatever happens to a
pipeline, it is like the one around the compiler whose breakdowns and empty answers are failures. If
the cache is empty, the next action asks the compiler and does what it answers; and if it answers by
a failure, tamed or not, so does the next action after that one, whatever happens between them. -/
theorem misbehaviour_is_failure (console : Console) (compiler : Compiler σ) (start : σ)
    (sandbox : Sandbox) (runner : Runner) (text : String) (xs : List Happening) :
    let p := (onto console compiler start sandbox runner text).undergoAll xs
    let q := (onto console compiler.tamed start sandbox runner text).undergoAll xs
    p.Alike q ∧
      (p.cache.held = none → p.Asks ∧
        ∀ payload, p.answered.tamed = .failure payload → ∀ c : Command, c.isAction →
          ∀ later, (∀ x ∈ later, x.isAction = false) → ((p.act c).undergoAll later).Asks) := by
  intro p q
  have hmatches : (onto console compiler start sandbox runner text).gateway.compiler.Matches
      compiler.tamed := compiler.matches_tamed
  obtain ⟨hq, hp⟩ := undergoAll_replaceCompiler xs hmatches
  have halike : p.Alike q := by
    have hq' : q = p.replaceCompiler compiler.tamed := hq
    rw [hq']
    exact alike_replaceCompiler hp
  refine ⟨halike, fun hh => ⟨asks_of_empty hh, ?_⟩⟩
  intro payload hanswer c hc later hlater
  have hfails := (asks_of_empty hh).failure payload hanswer
  exact asks_of_empty (held_undergoAll_of_empty later (hfails.held c hc) hlater)

/-- A compiler that breaks down, then answers without a byte, and then has an artifact. -/
theorem misbehaviour_is_failure_twice :
    let compiler : Compiler Nat := fun n _ =>
      (match n with
        | 0 => .breakdown none
        | 1 => .bytes []
        | _ => .bytes [7], n + 1)
    let p := (onto (.new none) compiler 0 ⟨"env", none, .unlimited, 9⟩ (fun _ _ => ⟨[], .ok 0⟩)
      "main").undergoAll [.joined, .moved (.command .compile)]
    let q := (p.act .run).undergoAll [.moved (.outside "next"), .joined]
    p.cache.held = none ∧ p.answered.tamed = .failure Answer.emptyArtifact ∧
      (p.act .run).state = .failed (.diagnostic (.ofPayload Answer.emptyArtifact)) ∧
      ∃ a : Artifact, a.bytes = [7] ∧ q.compile.1 = .ok a ∧ (q.act .compile).state = .compiled := by
  intro compiler p q
  have hheld : p.cache.held = none := rfl
  have hanswer : p.answered.tamed = .failure Answer.emptyArtifact := rfl
  obtain ⟨-, hnext⟩ := misbehaviour_is_failure (.new none) compiler 0
    ⟨"env", none, .unlimited, 9⟩ (fun _ _ => ⟨[], .ok 0⟩) "main"
    [.joined, .moved (.command .compile)]
  obtain ⟨hasks, hlater⟩ := hnext hheld
  have hq : q.Asks := hlater _ hanswer .run rfl [.moved (.outside "next"), .joined] (by decide)
  obtain ⟨a, hbytes, hsucceeds⟩ := hq.bytes [7] rfl (List.cons_ne_nil _ _)
  exact ⟨hheld, hanswer, (hasks.failure _ hanswer).state .run rfl, a, hbytes, hsucceeds.compile,
    hsucceeds.compiled⟩

end Pipeline

end Playground
