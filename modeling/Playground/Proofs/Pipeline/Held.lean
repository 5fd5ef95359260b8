import Playground.Proofs.Compiler.Calls
import Playground.Proofs.Pipeline.Command

/-!
# What the cache of a pipeline holds

State and cache of a pipeline are changed by different steps, and the cache compares no texts. Two
invariants say that nothing goes wrong, whatever the compiler answers and whatever programs do:

* `Coherent` — what the cache holds in each state. It holds in every state that moves lead to
  (`coherent_moveAll`).
* `Fresh` — an artifact is what the latest call to the compiler gave for the present text. It holds
  of the artifact in the cache before every action, if changes of the text behind the back of the
  pipeline are followed by an edit event (`held_fresh_before_action`).

Both read the journal: it tells calls, starts of programs, crashes and edit events in one order.
-/

set_option autoImplicit false

namespace Playground

open Script

namespace Occurrence

/-- Neither a call to the compiler nor an edit event. -/
def isQuiet : Occurrence → Bool
  | called .. | edited => false
  | _ => true

end Occurrence

namespace Pipeline

variable {σ : Type} {p q : Pipeline σ}

/-! ## State and cache -/

/-- The pipeline failed by a crash of `a`, the last program that was started, and the cache has kept
`a` unless an edit event came since. -/
def CrashedOn (p : Pipeline σ) (crash : Crash) (a : Artifact) : Prop :=
  ∃ past during since : List Occurrence,
    p.journal.toList = past ++ .started a :: during ++
      .changed ⟨.running, .failed (.crash crash)⟩ :: since ∧
    (∀ o ∈ during ++ since, ∀ b, o ≠ .started b) ∧
    p.cache.held = if .edited ∈ since then none else some a

/-- What the cache holds in each state. -/
structure Coherent (p : Pipeline σ) : Prop where
  not_compiling : p.state ≠ .compiling
  not_running : p.state ≠ .running
  idle : p.state = .idle → p.cache.held = none
  compiled : p.state = .compiled → p.cache.held.isSome
  diagnosed : ∀ d, p.state = .failed (.diagnostic d) → p.cache.held = none
  crashed : ∀ crash, p.state = .failed (.crash crash) → ∃ a, p.CrashedOn crash a

namespace Coherent

theorem of_idle (hs : p.state = .idle) (hh : p.cache.held = none) : p.Coherent := by
  constructor <;> simp [hs, hh]

theorem of_compiled (hs : p.state = .compiled) (hh : p.cache.held.isSome) : p.Coherent := by
  constructor <;> simp [hs, hh]

theorem of_diagnosed {d : Diagnostic} (hs : p.state = .failed (.diagnostic d))
    (hh : p.cache.held = none) : p.Coherent := by
  constructor <;> simp [hs, hh]

theorem of_crashed (crash : Crash) (a : Artifact) (hs : p.state = .failed (.crash crash))
    (hc : p.CrashedOn crash a) : p.Coherent := by
  constructor <;> simp only [hs, ne_eq, reduceCtorEq, not_false_eq_true, false_implies,
    State.failed.injEq, implies_true]
  intro crash' h
  cases h
  exact ⟨a, hc⟩

/-- Only state, cache and journal matter. -/
theorem congr (h : p.Coherent) (hs : q.state = p.state) (hc : q.cache = p.cache)
    (hj : q.journal = p.journal) : q.Coherent := by
  obtain ⟨h1, h2, h3, h4, h5, h6⟩ := h
  constructor <;> simp only [CrashedOn, hs, hc, hj] <;> assumption

end Coherent

theorem coherent_onto (console : Console) (compiler : Compiler σ) (start : σ) (sandbox : Sandbox)
    (runner : Runner) (text : String) :
    (onto console compiler start sandbox runner text).Coherent :=
  .of_idle rfl rfl

theorem coherent_compile (p : Pipeline σ) : p.compile.2.Coherent := by
  cases hl : p.lookup.1 with
  | ok a =>
    refine .of_compiled (by rw [state_compile, hl]; rfl) ?_
    rw [cache_compile, hl]; rfl
  | error d =>
    refine .of_diagnosed (d := d) (by rw [state_compile, hl]; rfl) ?_
    rw [cache_compile, hl]; rfl

/-- A program that crashes stays in the cache. -/
theorem crashedOn_running {q : Pipeline σ} {a : Artifact} {crash : Crash} {r : Performance}
    (hr : r.result = .error crash) (hh : q.cache.held = some a) (before : List Occurrence)
    (s : State) : (q.recordAll (before ++ running s a r)).CrashedOn crash a := by
  refine ⟨q.journal.toList ++ before ++ [.changed ⟨s, .running⟩],
    printed r.lines ++ shown crash.consoleLines, [], ?_, ?_, ?_⟩
  · simp [running, ending, hr]
  · intro o ho b
    simp only [List.append_nil, List.mem_append, printed, shown, List.mem_flatMap,
      List.mem_map] at ho
    rcases ho with ⟨l, -, ho⟩ | ⟨l, -, rfl⟩
    · simp only [List.mem_cons, List.not_mem_nil, or_false] at ho
      rcases ho with rfl | rfl <;> simp
    · simp
  · simp [hh]

theorem coherent_run (p : Pipeline σ) : p.run.2.Coherent := by
  cases hl : p.lookup.1 with
  | error d =>
    refine .of_diagnosed (state_run_of_error hl) ?_
    rw [cache_run, hl]; rfl
  | ok a =>
    cases hr : (p.runner p.sandbox a.bytes).result with
    | ok n =>
      refine .of_compiled (by rw [state_run_of_ok hl, hr]; rfl) ?_
      rw [cache_run, hl]; rfl
    | error crash =>
      refine .of_crashed crash a (by rw [state_run_of_ok hl, hr]; rfl) ?_
      rw [run_of_ok hl]
      exact crashedOn_running hr (by rw [stored, hl]; rfl) _ _

/-- The edit event empties the cache and leaves failures as they are. -/
theorem Coherent.notifyEdit (h : p.Coherent) : p.notifyEdit.Coherent := by
  have hstate := state_notifyEdit p
  have hheld : p.notifyEdit.cache.held = none := by rw [cache_notifyEdit]; rfl
  cases hs : p.state with
  | idle => exact .of_idle (by rw [hstate, hs]; rfl) hheld
  | compiling => exact absurd hs h.not_compiling
  | compiled => exact .of_idle (by rw [hstate, hs]; rfl) hheld
  | running => exact absurd hs h.not_running
  | failed why =>
    cases why with
    | diagnostic d => exact .of_diagnosed (d := d) (by rw [hstate, hs]; rfl) hheld
    | crash crash =>
      obtain ⟨a, past, during, since, hj, hstart, -⟩ := h.crashed crash hs
      -- the crash stays the same, and the edit event comes behind it in the journal
      refine .of_crashed crash a (by rw [hstate, hs]; rfl)
        ⟨past, during, since ++ [.edited], ?_, ?_, ?_⟩
      · rw [notifyEdit_eq, recordAll_journal, hs]
        simp [editing, emptied, hj]
      · intro o ho b
        rw [← List.append_assoc, List.mem_append, List.mem_singleton] at ho
        rcases ho with ho | rfl
        · exact hstart o ho b
        · simp
      · simp [hheld]

theorem Coherent.act (h : p.Coherent) (c : Command) : (p.act c).Coherent := by
  cases c with
  | compile => exact coherent_compile p
  | run => exact coherent_run p
  | edit text => exact (h.congr (q := p.replaceText text) rfl rfl rfl).notifyEdit
  | notifyEdit => exact h.notifyEdit
  | setLimits limits => exact h.congr rfl rfl rfl

theorem Coherent.move (h : p.Coherent) (m : Move) : (p.move m).Coherent := by
  cases m with
  | command c => exact h.act c
  | outside text => exact h.congr rfl rfl rfl
  | behave runner => exact h.congr rfl rfl rfl

/-- **State and cache never drift apart**: whatever the compiler answers, however programs behave
and whatever the console is, every sequence of moves leads a new pipeline to a coherent one. -/
theorem coherent_moveAll (console : Console) (compiler : Compiler σ) (start : σ)
    (sandbox : Sandbox) (runner : Runner) (text : String) (ms : List Move) :
    ((onto console compiler start sandbox runner text).moveAll ms).Coherent :=
  moveAll_preserves (fun _ m h => h.move m) ms _ (coherent_onto ..)

/-! ## Freshness -/

/-- `a` is what the latest call to the compiler gave: the call was handed the text that is in the
editor, the gateway stands as that call left it, and no edit event came since. -/
structure Fresh (p : Pipeline σ) (a : Artifact) : Prop where
  latest : ∃ (g : Gateway σ) (past since : List Occurrence),
    g.compile p.text = (.ok a, p.gateway) ∧
    p.journal.toList = past ++ .called p.text none :: .delivered a :: since ∧
    ∀ o ∈ since, o.isQuiet
  nonempty : a.bytes ≠ []

/-- What else happens does not matter, as long as the compiler is not called, no edit event comes
and the text stays. -/
theorem Fresh.extend {a : Artifact} (h : p.Fresh a) (os : List Occurrence)
    (hos : ∀ o ∈ os, o.isQuiet) (ht : q.text = p.text) (hg : q.gateway = p.gateway)
    (hj : q.journal.toList = p.journal.toList ++ os) : q.Fresh a := by
  obtain ⟨⟨g, past, since, hc, hjp, hs⟩, hne⟩ := h
  refine ⟨⟨g, past, since ++ os, ?_, ?_, ?_⟩, hne⟩
  · rw [ht, hg]; exact hc
  · rw [hj, hjp, ht]; simp
  · intro o ho
    rcases List.mem_append.mp ho with ho | ho
    · exact hs o ho
    · exact hos o ho

/-- Looking up the artifact of a text keeps it fresh or makes it fresh. -/
theorem fresh_stored {a : Artifact} (hl : p.lookup.1 = .ok a)
    (hheld : ∀ b, p.cache.held = some b → p.Fresh b) {before since : List Occurrence}
    (hb : ∀ o ∈ before, o.isQuiet) (hs : ∀ o ∈ since, o.isQuiet) :
    (p.stored.recordAll (before ++ p.call ++ since)).Fresh a := by
  cases h : p.cache.held with
  | some b =>
    obtain rfl : b = a := by rw [lookup_of_held h] at hl; cases hl; rfl
    rw [stored_of_held h, call_of_held h]
    refine (hheld b h).extend (before ++ [] ++ since) ?_ (by simp) (by simp) (by simp)
    intro o ho
    rw [List.append_nil, List.mem_append] at ho
    exact ho.elim (hb o) (hs o)
  | none =>
    rw [lookup_of_empty h] at hl
    refine ⟨⟨p.gateway, p.journal.toList ++ before, since, ?_, ?_, hs⟩, ?_⟩
    · rw [recordAll_text, recordAll_gateway, stored, lookup_of_empty h, ← hl]
    · rw [call_of_empty h, hl]
      simp [Occurrence.answered, stored]
    · exact Gateway.nonempty_of_compile_ok hl

theorem quiet_shown (lines : List String) : ∀ o ∈ shown lines, o.isQuiet := by
  intro o ho
  obtain ⟨l, -, rfl⟩ := List.mem_map.mp ho
  rfl

theorem quiet_printed (lines : List String) : ∀ o ∈ printed lines, o.isQuiet := by
  intro o ho
  obtain ⟨l, -, ho⟩ := List.mem_flatMap.mp ho
  simp only [List.mem_cons, List.not_mem_nil, or_false] at ho
  rcases ho with rfl | rfl <;> rfl

theorem quiet_running (s : State) (a : Artifact) (r : Performance) :
    ∀ o ∈ running s a r, o.isQuiet := by
  intro o ho
  simp only [running, List.cons_append, List.mem_cons, List.mem_append] at ho
  rcases ho with rfl | rfl | ho | ho
  · rfl
  · rfl
  · exact quiet_printed _ o ho
  · unfold ending at ho
    split at ho
    · simp only [List.mem_singleton] at ho; subst ho; rfl
    · rcases List.mem_append.mp ho with ho | ho
      · exact quiet_shown _ o ho
      · simp only [List.mem_singleton] at ho; subst ho; rfl

theorem fresh_compile {a : Artifact} (hheld : ∀ b, p.cache.held = some b → p.Fresh b)
    (h : p.compile.2.cache.held = some a) : p.compile.2.Fresh a := by
  rw [cache_compile] at h
  cases hl : p.lookup.1 with
  | error d => rw [hl] at h; cases h
  | ok b =>
    rw [hl] at h
    cases h
    have hscript : .console .cleared :: compiling p.state p.call (.ok a) =
        [.console .cleared, .changed ⟨p.state, .compiling⟩] ++ p.call ++
          [.console (.line successLine), .changed ⟨.compiling, .compiled⟩] := rfl
    rw [compile_eq, hl, hscript]
    exact fresh_stored hl hheld (by simp [Occurrence.isQuiet]) (by simp [Occurrence.isQuiet])

theorem fresh_run {a : Artifact} (hheld : ∀ b, p.cache.held = some b → p.Fresh b)
    (h : p.run.2.cache.held = some a) : p.run.2.Fresh a := by
  rw [cache_run] at h
  cases hl : p.lookup.1 with
  | error d => rw [hl] at h; cases h
  | ok b =>
    rw [hl] at h
    cases h
    -- with an empty cache the program starts after a compile, otherwise right away
    have hscript : ∃ before since, p.opening = before ++ p.call ++ since ∧
        (∀ o ∈ before, o.isQuiet) ∧ ∀ o ∈ since, o.isQuiet := by
      cases hh : p.cache.held with
      | some b =>
        refine ⟨[.console .cleared], [], ?_, by simp [Occurrence.isQuiet], by simp⟩
        rw [opening_of_held hh, call_of_held hh]; rfl
      | none =>
        refine ⟨[.console .cleared, .changed ⟨p.state, .compiling⟩],
          [.console (.line successLine), .changed ⟨.compiling, .compiled⟩], ?_,
          by simp [Occurrence.isQuiet], by simp [Occurrence.isQuiet]⟩
        rw [opening_of_empty hh, hl]; rfl
    obtain ⟨before, since, hs, hb, hq⟩ := hscript
    rw [run_of_ok hl, hs, List.append_assoc (before ++ p.call)]
    refine fresh_stored hl hheld hb ?_
    intro o ho
    exact (List.mem_append.mp ho).elim (hq o) (quiet_running _ _ _ o)

/-! ## Changes behind the back of the pipeline -/

end Pipeline

namespace Move

/-- The two actions. -/
def isAction : Move → Bool
  | command c => c.isAction
  | _ => false

/-- Whether a change of the text waits for its edit event after the move, given whether one waited
before it. -/
def waits (waiting : Bool) : Move → Bool
  | command c => waiting && !c.isEdit
  | outside _ => true
  | behave _ => waiting

/-- Whether no action comes while a change of the text waits for its edit event. -/
def announced (waiting : Bool) : List Move → Bool
  | [] => true
  | m :: ms => !(waiting && m.isAction) && announced (m.waits waiting) ms

/-- Whether a change of the text waits after moves. -/
def waitsAfter (waiting : Bool) (ms : List Move) : Bool := ms.foldl waits waiting

theorem announced_append (ns : List Move) : ∀ (ms : List Move) (waiting : Bool),
    announced waiting (ms ++ ns) =
      (announced waiting ms && announced (waitsAfter waiting ms) ns)
  | [], _ => rfl
  | m :: ms, waiting => by
    simp only [List.cons_append, announced, announced_append ns ms, waitsAfter, List.foldl_cons,
      Bool.and_assoc]

end Move

namespace Pipeline

variable {σ : Type} {p : Pipeline σ}

/-- If no change of the text waits, the artifact in the cache is fresh. -/
def FreshUnless (waiting : Bool) (p : Pipeline σ) : Prop :=
  waiting = false → ∀ a, p.cache.held = some a → p.Fresh a

theorem freshUnless_of_empty {waiting : Bool} (h : p.cache.held = none) :
    p.FreshUnless waiting := by
  intro _ a ha
  rw [h] at ha; cases ha

theorem FreshUnless.move {waiting : Bool} (h : p.FreshUnless waiting) {m : Move}
    (hm : (waiting && m.isAction) = false) : (p.move m).FreshUnless (m.waits waiting) := by
  cases m with
  | outside text => intro hw; cases hw
  | behave runner =>
    intro hw a ha
    exact (h hw a ha).extend [] (by simp) rfl rfl (by simp [Pipeline.move])
  | command c =>
    cases c with
    | compile =>
      have hw : waiting = false := by simpa [Move.isAction, Command.isAction] using hm
      exact fun _ a ha => fresh_compile (h hw) ha
    | run =>
      have hw : waiting = false := by simpa [Move.isAction, Command.isAction] using hm
      exact fun _ a ha => fresh_run (h hw) ha
    | edit text =>
      refine freshUnless_of_empty ?_
      exact congrArg Cache.held (cache_notifyEdit (p.replaceText text))
    | notifyEdit =>
      refine freshUnless_of_empty ?_
      exact congrArg Cache.held (cache_notifyEdit p)
    | setLimits limits =>
      intro hw a ha
      have hw' : waiting = false := by simpa [Move.waits, Command.isEdit] using hw
      exact (h hw' a ha).extend [] (by simp) rfl rfl
        (by simp [Pipeline.move, Pipeline.act, setLimits])

theorem FreshUnless.moveAll (ms : List Move) : ∀ {waiting : Bool} {p : Pipeline σ},
    p.FreshUnless waiting → Move.announced waiting ms →
      (p.moveAll ms).FreshUnless (Move.waitsAfter waiting ms) := by
  induction ms with
  | nil => intro _ _ h _; exact h
  | cons m ms ih =>
    intro waiting p h hms
    simp only [Move.announced, Bool.and_eq_true, Bool.not_eq_true'] at hms
    exact ih (h.move hms.1) hms.2

/-- **The artifact in the cache is never stale when an action starts**: whatever the compiler
answers to one and the same text, the artifact is what the latest call gave for the present text. -/
theorem held_fresh_before_action (console : Console) (compiler : Compiler σ) (start : σ)
    (sandbox : Sandbox) (runner : Runner) (text : String) (before after : List Move) (m : Move)
    (hm : m.isAction) (hms : Move.announced false (before ++ m :: after)) (a : Artifact)
    (ha : ((onto console compiler start sandbox runner text).moveAll before).cache.held = some a) :
    ((onto console compiler start sandbox runner text).moveAll before).Fresh a := by
  rw [Move.announced_append, Bool.and_eq_true, Move.announced, Bool.and_eq_true, hm] at hms
  obtain ⟨hbefore, hw, -⟩ := hms
  have hw' : Move.waitsAfter false before = false := by simpa using hw
  have hstart : (onto console compiler start sandbox runner text).FreshUnless false :=
    freshUnless_of_empty rfl
  exact hstart.moveAll before hbefore hw' a ha

/-- A compiler that never gives the same bytes twice; the text is changed between its calls. -/
theorem held_fresh_before_action_twice :
    let compiler : Compiler UInt8 := fun n _ => (.bytes [n], n + 1)
    let p := (onto (.new none) compiler 7 ⟨"env", none, ⟨none, none⟩, 9⟩
      (fun _ _ => ⟨[], .ok 0⟩) "one").moveAll
        [.command .compile, .outside "two", .command .notifyEdit, .command .run]
    p.cache.held = some ⟨1, [8]⟩ ∧ p.Fresh ⟨1, [8]⟩ := by
  intro compiler p
  have hheld : p.cache.held = some ⟨1, [8]⟩ := rfl
  exact ⟨hheld, held_fresh_before_action (.new none) compiler 7 ⟨"env", none, ⟨none, none⟩, 9⟩
    (fun _ _ => ⟨[], .ok 0⟩) "one"
    [.command .compile, .outside "two", .command .notifyEdit, .command .run] []
    (.command .run) rfl rfl ⟨1, [8]⟩ hheld⟩

end Pipeline

end Playground
