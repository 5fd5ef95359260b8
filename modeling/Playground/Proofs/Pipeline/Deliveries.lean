import Playground.Proofs.Pipeline.Failures
import Playground.Proofs.Pipeline.Held

/-!
# Calls to the compiler and the artifacts that come from them

A pipeline hands out artifacts in two ways: a compile answers with one, and the cache can be looked
at. This file says where they come from, and how often the compiler is called for them.

* `misses` — the number of actions among some moves that find the cache empty;
  `invocations_moveAll` says that the compiler is called for those and no others.
* `Numbered` — the artifacts delivered carry the numbers of their deliveries, and the one in the
  cache was delivered last.
* `handedOut` — the artifacts handed out in the course of some moves.
* `single_moveAll` — between two edit events one artifact is delivered at most, and no other is
  handed out.
* `accounted` — all of this for every pipeline, from its start on.
-/

set_option autoImplicit false

namespace Playground

open Script

/-- Two handles are of one object: they come from one successful compile. -/
def Artifact.SameObject (a b : Artifact) : Prop := a.serial = b.serial

namespace Gateway

variable {σ : Type} {g : Gateway σ} {source : String}

/-- A successful call numbers its artifact by the successful calls before it. -/
theorem produced_of_compile_ok {a : Artifact} (h : (g.compile source).1 = .ok a) :
    a.serial = g.produced ∧ (g.compile source).2.produced = g.produced + 1 := by
  unfold compile at h ⊢
  cases hb : (g.compiler g.state source).1.artifact with
  | error d => simp only [hb] at h; cases h
  | ok bytes =>
    simp only [hb] at h ⊢
    cases h
    exact ⟨rfl, trivial⟩

theorem produced_of_compile_error {d : Diagnostic} (h : (g.compile source).1 = .error d) :
    (g.compile source).2.produced = g.produced := by
  unfold compile at h ⊢
  cases hb : (g.compiler g.state source).1.artifact with
  | error d => simp only [hb]
  | ok bytes => simp only [hb] at h; cases h

end Gateway

namespace Pipeline

variable {σ : Type} {p q : Pipeline σ}

/-! ## The number of calls -/

/-- The number of actions that find the cache empty. -/
def misses (p : Pipeline σ) : List Move → Nat
  | [] => 0
  | m :: ms => (if m.isAction && p.cache.held.isNone then 1 else 0) + (p.move m).misses ms

theorem invocations_move (p : Pipeline σ) (m : Move) : (p.move m).gateway.invocations =
    p.gateway.invocations + if m.isAction && p.cache.held.isNone then 1 else 0 := by
  cases m with
  | command c =>
    have hact : (p.move (.command c)).gateway.invocations = _ := p.invocations_act c
    rw [hact, calls_script]
    rfl
  | outside text => rfl
  | behave runner => rfl

/-- **The compiler is called by the actions that find the cache empty**, and by no others. -/
theorem invocations_moveAll (ms : List Move) : ∀ p : Pipeline σ,
    (p.moveAll ms).gateway.invocations = p.gateway.invocations + p.misses ms := by
  induction ms with
  | nil => intro p; rfl
  | cons m ms ih =>
    intro p
    have hrest : (p.moveAll (m :: ms)).gateway.invocations = _ := ih (p.move m)
    rw [hrest, invocations_move, misses, Nat.add_assoc]

/-- A run reports that it compiled exactly if it called the compiler. -/
theorem compiled_iff_invocations_lt {report : RunReport} (h : p.run.1 = .ok report) :
    report.compiled = true ↔ p.gateway.invocations < p.run.2.gateway.invocations := by
  have hcount : p.run.2.gateway.invocations = _ := p.invocations_move (.command .run)
  rw [hcount]
  cases hl : p.lookup.1 with
  | error d => rw [run_of_error hl] at h; cases h
  | ok a =>
    rw [run_of_ok hl] at h
    cases hr : (p.runner p.sandbox a.bytes).result with
    | error crash => rw [Performance.report_of_error _ hr] at h; cases h
    | ok n =>
      rw [Performance.report_of_ok _ hr] at h
      cases h
      cases p.cache.held <;> simp [Move.isAction, Command.isAction]

/-! ## The numbers of artifacts -/

theorem silently_of_isAction (p : Pipeline σ) {c : Command} (hc : c.isAction) :
    p.silently c = p.stored := by
  cases c with
  | compile => rfl
  | run => rfl
  | edit text => cases hc
  | notifyEdit => cases hc
  | setLimits limits => cases hc

/-- An action leaves the gateway that has looked up the text. -/
theorem gateway_of_isAction (p : Pipeline σ) {c : Command} (hc : c.isAction) :
    (p.act c).gateway = p.lookup.2 := by
  rw [act_eq, recordAll_gateway, silently_of_isAction p hc]; rfl

/-- An action leaves what the text comes to in the cache. -/
theorem held_of_isAction (p : Pipeline σ) {c : Command} (hc : c.isAction) :
    (p.act c).cache.held = p.lookup.1.toOption := by
  rw [act_eq, recordAll_cache, silently_of_isAction p hc]; rfl

/-- The artifacts that were delivered so far are numbered in their order, and the cache holds none
but the last of them. -/
structure Numbered (p : Pipeline σ) : Prop where
  serials : (deliveries p.journal.toList).map (·.serial) = List.range p.gateway.produced
  held : ∀ a, p.cache.held = some a → (deliveries p.journal.toList).getLast? = some a

/-- Only deliveries, the count of the gateway and the cache matter. -/
theorem Numbered.congr (h : p.Numbered)
    (hj : deliveries q.journal.toList = deliveries p.journal.toList)
    (hg : q.gateway.produced = p.gateway.produced)
    (hc : ∀ a, q.cache.held = some a → p.cache.held = some a) : q.Numbered := by
  refine ⟨?_, ?_⟩
  · rw [hj, hg, h.serials]
  · intro a ha
    rw [hj]
    exact h.held a (hc a ha)

theorem Numbered.action (h : p.Numbered) {c : Command} (hc : c.isAction) :
    (p.act c).Numbered := by
  have hjournal : deliveries (p.act c).journal.toList = deliveries p.journal.toList ++
      if p.cache.held.isNone then p.lookup.1.toOption.toList else [] := by
    rw [journal_act, deliveries_append, deliveries_script, hc]; rfl
  have hgateway := gateway_of_isAction p hc
  have hcache := held_of_isAction p hc
  cases hh : p.cache.held with
  | some a =>
    rw [hh] at hjournal
    rw [lookup_of_held hh] at hgateway hcache
    refine h.congr (by rw [hjournal]; exact List.append_nil _) (by rw [hgateway]) ?_
    intro b hb
    rw [hh, ← hb, hcache]; rfl
  | none =>
    rw [hh, lookup_of_empty hh] at hjournal
    rw [lookup_of_empty hh] at hgateway hcache
    cases hr : (p.gateway.compile p.text).1 with
    | error d =>
      rw [hr] at hjournal hcache
      refine h.congr (by rw [hjournal]; exact List.append_nil _) ?_ ?_
      · rw [hgateway, Gateway.produced_of_compile_error hr]
      · intro b hb
        rw [hcache] at hb; cases hb
    | ok a =>
      obtain ⟨hserial, hproduced⟩ := Gateway.produced_of_compile_ok hr
      have hdelivered : deliveries (p.act c).journal.toList =
          deliveries p.journal.toList ++ [a] := by rw [hjournal, hr]; rfl
      refine ⟨?_, ?_⟩
      · rw [hdelivered, hgateway, hproduced, List.map_append, h.serials, List.range_succ,
          ← hserial]
        rfl
      · intro b hb
        rw [hcache, hr] at hb
        cases hb
        rw [hdelivered, List.getLast?_concat]

theorem Numbered.act (h : p.Numbered) (c : Command) : (p.act c).Numbered := by
  cases hc : c.isAction with
  | true => exact h.action hc
  | false =>
    have hjournal : deliveries (p.act c).journal.toList = deliveries p.journal.toList := by
      rw [journal_act, deliveries_append, deliveries_script, hc]
      exact List.append_nil _
    refine h.congr hjournal ?_ ?_
    · rw [act_eq, recordAll_gateway]
      cases c <;> first | rfl | cases hc
    · intro a ha
      rw [act_eq, recordAll_cache] at ha
      -- an edit event empties the cache, and limits do not concern it
      cases c <;> first | exact ha | cases ha | cases hc

theorem Numbered.move (h : p.Numbered) (m : Move) : (p.move m).Numbered := by
  cases m with
  | command c => exact h.act c
  | outside text => exact ⟨h.serials, h.held⟩
  | behave runner => exact ⟨h.serials, h.held⟩

theorem numbered_onto (console : Console) (compiler : Compiler σ) (start : σ) (sandbox : Sandbox)
    (runner : Runner) (text : String) :
    (onto console compiler start sandbox runner text).Numbered := ⟨rfl, nofun⟩

theorem Numbered.moveAll (h : p.Numbered) (ms : List Move) : (p.moveAll ms).Numbered :=
  moveAll_preserves (fun _ m hp => hp.move m) ms p h

/-- The number of an artifact is the place of its delivery. -/
theorem Numbered.serial_eq (h : p.Numbered) {i : Nat} {a : Artifact}
    (ha : (deliveries p.journal.toList)[i]? = some a) : a.serial = i := by
  have hi : ((deliveries p.journal.toList).map (·.serial))[i]? = some a.serial := by
    rw [List.getElem?_map, ha]; rfl
  rw [h.serials] at hi
  obtain ⟨hlt, hget⟩ := List.getElem?_eq_some_iff.mp hi
  rw [List.getElem_range hlt] at hget
  exact hget.symm

/-! ## What is handed out -/

/-- The artifact that a move answers with, if it does. -/
def answer (p : Pipeline σ) : Move → List Artifact
  | .command .compile => p.compile.1.toOption.toList
  | _ => []

/-- The artifacts handed out in the course of moves: what the cache holds before, between and after
them, and what compiles answer with. -/
def handedOut (p : Pipeline σ) : List Move → List Artifact
  | [] => p.cache.held.toList
  | m :: ms => p.cache.held.toList ++ p.answer m ++ (p.move m).handedOut ms

/-- The artifact that a compile answers with is in the cache then. -/
theorem held_of_mem_answer {m : Move} {a : Artifact} (h : a ∈ p.answer m) :
    (p.move m).cache.held = some a := by
  unfold answer at h
  split at h
  · have hcache : (p.move (.command .compile)).cache = _ := cache_compile p
    rw [compile_eq] at h
    rw [hcache]
    simpa using h
  · cases h

/-- Whatever is handed out is in the cache at some time. -/
theorem held_of_mem_handedOut {a : Artifact} (ms : List Move) : ∀ {p : Pipeline σ},
    a ∈ p.handedOut ms → ∃ before after, ms = before ++ after ∧
      (p.moveAll before).cache.held = some a := by
  induction ms with
  | nil =>
    intro p h
    exact ⟨[], [], rfl, Option.mem_toList.mp h⟩
  | cons m ms ih =>
    intro p h
    rw [handedOut, List.append_assoc, List.mem_append, List.mem_append] at h
    rcases h with h | h | h
    · exact ⟨[], m :: ms, rfl, Option.mem_toList.mp h⟩
    · exact ⟨[m], ms, rfl, held_of_mem_answer h⟩
    · obtain ⟨before, after, rfl, hheld⟩ := ih h
      exact ⟨m :: before, after, rfl, hheld⟩

theorem prefix_journal_move (p : Pipeline σ) (m : Move) :
    p.journal.toList <+: (p.move m).journal.toList := by
  cases m with
  | command c => exact ⟨_, (p.journal_act c).symm⟩
  | outside text => exact List.prefix_rfl
  | behave runner => exact List.prefix_rfl

theorem prefix_journal_moveAll (p : Pipeline σ) (ms : List Move) :
    p.journal.toList <+: (p.moveAll ms).journal.toList :=
  moveAll_preserves (P := fun q => p.journal.toList <+: q.journal.toList)
    (fun q m h => h.trans (q.prefix_journal_move m)) ms p List.prefix_rfl

/-- **Whatever is handed out was delivered by the compiler.** -/
theorem Numbered.delivered_of_mem_handedOut (h : p.Numbered) {ms : List Move} {a : Artifact}
    (ha : a ∈ p.handedOut ms) :
    ∃ i : Nat, (deliveries (p.moveAll ms).journal.toList)[i]? = some a := by
  obtain ⟨before, after, rfl, hheld⟩ := held_of_mem_handedOut ms ha
  have hmem := List.mem_of_getLast? ((h.moveAll before).held a hheld)
  have hlater : (p.moveAll before).moveAll after = p.moveAll (before ++ after) :=
    List.foldl_append.symm
  have hgrown := (p.moveAll before).prefix_journal_moveAll after
  rw [hlater] at hgrown
  exact List.mem_iff_getElem?.mp ((hgrown.filterMap _).subset hmem)

/-! ## Between two edit events -/

/-- Without an edit event, a move leaves the cache as it is and nothing is delivered, or an artifact
is delivered into the empty cache. -/
theorem move_cases {m : Move} (hm : m.isEdit = false) :
    ∃ since, (p.move m).journal.toList = p.journal.toList ++ since ∧
      ((p.move m).cache.held = p.cache.held ∧ deliveries since = [] ∨
        p.cache.held = none ∧ ∃ a, (p.move m).cache.held = some a ∧ deliveries since = [a]) := by
  have hquiet : ∀ q : Pipeline σ, q.journal = p.journal → q.cache = p.cache →
      ∃ since, q.journal.toList = p.journal.toList ++ since ∧
        (q.cache.held = p.cache.held ∧ deliveries since = [] ∨
          p.cache.held = none ∧ ∃ a, q.cache.held = some a ∧ deliveries since = [a]) := by
    intro q hj hc
    exact ⟨[], by rw [hj, List.append_nil], .inl ⟨by rw [hc], rfl⟩⟩
  cases m with
  | outside text => exact hquiet _ rfl rfl
  | behave runner => exact hquiet _ rfl rfl
  | command c =>
    cases hc : c.isAction with
    | false =>
      cases c with
      | setLimits limits => exact hquiet _ rfl rfl
      | edit text => cases hm
      | notifyEdit => cases hm
      | compile => cases hc
      | run => cases hc
    | true =>
      have hcache := held_of_isAction p hc
      have hdelivered := p.deliveries_script c
      rw [hc] at hdelivered
      refine ⟨p.script c, p.journal_act c, ?_⟩
      cases hh : p.cache.held with
      | some a =>
        rw [hh] at hdelivered
        rw [lookup_of_held hh] at hcache
        exact .inl ⟨hcache, hdelivered⟩
      | none =>
        rw [hh] at hdelivered
        cases hl : p.lookup.1 with
        | error d =>
          rw [hl] at hdelivered hcache
          exact .inl ⟨hcache, hdelivered⟩
        | ok a =>
          rw [hl] at hdelivered hcache
          exact .inr ⟨rfl, a, hcache, hdelivered⟩

/-- **Between two edit events there is one artifact at most**: no other is delivered, and no other is
handed out, however many compiles, runs and crashes there are. -/
theorem single_moveAll (ms : List Move) : ∀ p : Pipeline σ, (∀ m ∈ ms, m.isEdit = false) →
    ∃ one : Option Artifact, (∀ a, p.cache.held = some a → one = some a) ∧
      (∀ a ∈ p.handedOut ms, one = some a) ∧
      ∃ since, (p.moveAll ms).journal.toList = p.journal.toList ++ since ∧
        deliveries since = if p.cache.held.isSome then [] else one.toList := by
  induction ms with
  | nil =>
    intro p _
    refine ⟨p.cache.held, fun _ h => h, fun _ h => Option.mem_toList.mp h, [], ?_, ?_⟩
    · exact (List.append_nil _).symm
    · cases p.cache.held <;> rfl
  | cons m ms ih =>
    intro p hms
    obtain ⟨one, hheld, hout, later, hlater, hdeliveries⟩ :=
      ih (p.move m) fun m' hm' => hms m' (List.mem_cons_of_mem m hm')
    obtain ⟨since, hsince, hcases⟩ := p.move_cases (hms m List.mem_cons_self)
    have hkept : ∀ a, p.cache.held = some a → (p.move m).cache.held = some a := by
      intro a ha
      obtain ⟨hsame, -⟩ | ⟨hempty, -⟩ := hcases
      · rw [hsame, ha]
      · rw [hempty] at ha; cases ha
    have hfirst : ∀ a, p.cache.held = some a → one = some a := fun a ha => hheld a (hkept a ha)
    refine ⟨one, hfirst, ?_, since ++ later, ?_, ?_⟩
    · intro a ha
      rw [handedOut, List.append_assoc, List.mem_append, List.mem_append] at ha
      rcases ha with ha | ha | ha
      · exact hfirst a (Option.mem_toList.mp ha)
      · exact hheld a (held_of_mem_answer ha)
      · exact hout a ha
    · have hall : (p.moveAll (m :: ms)).journal.toList = _ := hlater
      rw [hall, hsince, List.append_assoc]
    · rw [deliveries_append, hdeliveries]
      obtain ⟨hsame, hnone⟩ | ⟨hempty, a, hnew, hone⟩ := hcases
      · rw [hsame, hnone, List.nil_append]
      · rw [hone, hempty, hnew, hheld a hnew]
        rfl

/-! ## The accounts -/

/-- The accounts of the calls to the compiler and of the artifacts in some moves of a new pipeline
`p`. -/
structure Accounts (p : Pipeline σ) (ms : List Move) : Prop where
  /-- The calls are as many as the actions that found the cache empty. -/
  calls : (p.moveAll ms).gateway.invocations = p.misses ms
  /-- One more command adds one call at most. -/
  step : ∀ c, ((p.moveAll ms).act c).gateway.invocations ≤
    (p.moveAll ms).gateway.invocations + 1
  /-- A run reports that it compiled exactly if it adds one. -/
  reported : ∀ report, (p.moveAll ms).run.1 = .ok report →
    (report.compiled = true ↔
      (p.moveAll ms).gateway.invocations < (p.moveAll ms).run.2.gateway.invocations)
  /-- What is handed out comes from a successful call. -/
  origin : ∀ a ∈ p.handedOut ms,
    ∃ i : Nat, (deliveries (p.moveAll ms).journal.toList)[i]? = some a
  /-- Artifacts are one object exactly if they come from the same successful call. -/
  identity : ∀ (i j : Nat) (a b : Artifact),
    (deliveries (p.moveAll ms).journal.toList)[i]? = some a →
    (deliveries (p.moveAll ms).journal.toList)[j]? = some b → (a.SameObject b ↔ i = j)
  /-- In a span without an edit event at most one call succeeds, and one object is handed out. -/
  single : ∀ before span after, ms = before ++ span ++ after → (∀ m ∈ span, m.isEdit = false) →
    (∃ since, (p.moveAll (before ++ span)).journal.toList =
        (p.moveAll before).journal.toList ++ since ∧ (deliveries since).length ≤ 1) ∧
      ∀ a ∈ (p.moveAll before).handedOut span, ∀ b ∈ (p.moveAll before).handedOut span,
        a.SameObject b

/-- **Calls and artifacts are accounted for**, whatever the compiler answers and however programs
behave. -/
theorem accounted (console : Console) (compiler : Compiler σ) (start : σ) (sandbox : Sandbox)
    (runner : Runner) (text : String) (ms : List Move) :
    (onto console compiler start sandbox runner text).Accounts ms := by
  have hnumbered := numbered_onto console compiler start sandbox runner text
  generalize hp : onto console compiler start sandbox runner text = p at hnumbered ⊢
  refine ⟨?_, ?_, ?_, fun a => hnumbered.delivered_of_mem_handedOut, ?_, ?_⟩
  · rw [invocations_moveAll, ← hp]
    exact Nat.zero_add _
  · intro c
    have hstep := (p.moveAll ms).invocations_move (.command c)
    rw [Pipeline.move] at hstep
    rw [hstep]
    split <;> omega
  · intro report hreport
    exact compiled_iff_invocations_lt hreport
  · intro i j a b hi hj
    rw [Artifact.SameObject, (hnumbered.moveAll ms).serial_eq hi,
      (hnumbered.moveAll ms).serial_eq hj]
  · rintro before span after rfl hspan
    obtain ⟨one, -, hout, since, hjournal, hdeliveries⟩ :=
      single_moveAll span (p.moveAll before) hspan
    have hmoves : (p.moveAll before).moveAll span = p.moveAll (before ++ span) :=
      List.foldl_append.symm
    rw [hmoves] at hjournal
    refine ⟨⟨since, hjournal, ?_⟩, ?_⟩
    · rw [hdeliveries]
      cases (p.moveAll before).cache.held <;> cases one <;> simp
    · intro a ha b hb
      have hsame : some a = some b := (hout a ha).symm.trans (hout b hb)
      rw [Option.some.inj hsame]
      rfl

end Pipeline

end Playground
