import Playground.Compiler.Gateway

/-!
# Calls through the gateway

* `compile_result` — what a call gives is the worth of the compiler's answer, with a number of its
  own if it is an artifact.
* `nonempty_of_compile_ok` — an artifact has bytes.
* `compileAll` — texts compiled one after another.
* `Compiler.Computes` — a compiler whose answers are a function of the text; it gives the same bytes
  in every state (`Computes.bytes_of_compile`).
-/

set_option autoImplicit false

namespace Playground

variable {σ : Type}

theorem Answer.nonempty_of_artifact_ok {answer : Answer} {bytes : List UInt8}
    (h : answer.artifact = .ok bytes) : bytes ≠ [] := by
  cases answer with
  | bytes artifact =>
    cases artifact with
    | nil => cases h
    | cons b bs => cases h; simp
  | failure payload => cases h
  | breakdown message => cases h

namespace Gateway

theorem compile_result (g : Gateway σ) (source : String) :
    (g.compile source).1 = (g.compiler g.state source).1.artifact.map (⟨g.produced, ·⟩) := by
  unfold compile
  cases h : (g.compiler g.state source).1.artifact <;> simp [h, Except.map]

theorem compile_compiler (g : Gateway σ) (source : String) :
    (g.compile source).2.compiler = g.compiler := by
  unfold compile
  cases h : (g.compiler g.state source).1.artifact <;> simp [h]

theorem compile_state (g : Gateway σ) (source : String) :
    (g.compile source).2.state = (g.compiler g.state source).2 := by
  unfold compile
  cases h : (g.compiler g.state source).1.artifact <;> simp [h]

/-- The gateway after texts were compiled one after another. -/
def compileAll (g : Gateway σ) (sources : List String) : Gateway σ :=
  sources.foldl (fun g source => (g.compile source).2) g

theorem compileAll_compiler (sources : List String) : ∀ g : Gateway σ,
    (g.compileAll sources).compiler = g.compiler := by
  induction sources with
  | nil => intro g; rfl
  | cons source rest ih => intro g; exact (ih _).trans (g.compile_compiler source)

/-- A compiler that leaves its state as it was does so in every sequence of calls. -/
theorem compileAll_state {state : σ} (sources : List String) : ∀ {g : Gateway σ},
    g.state = state → (∀ source, (g.compiler state source).2 = state) →
      (g.compileAll sources).state = state := by
  induction sources with
  | nil => intro g hs _; exact hs
  | cons source rest ih =>
    intro g hs hkeep
    refine ih ?_ fun text => ?_
    · rw [compile_state, hs]
      exact hkeep source
    · rw [compile_compiler]
      exact hkeep text

theorem nonempty_of_compile_ok {g : Gateway σ} {source : String} {a : Artifact}
    (h : (g.compile source).1 = .ok a) : a.bytes ≠ [] := by
  rw [compile_result] at h
  cases hb : (g.compiler g.state source).1.artifact with
  | error d => rw [hb] at h; cases h
  | ok bytes =>
    rw [hb] at h
    cases h
    exact Answer.nonempty_of_artifact_ok hb

end Gateway

/-! ## Compilers that are functions -/

/-- The compiler answers every text as `f` does, whatever it was asked before. -/
def Compiler.Computes (compiler : Compiler σ) (f : String → Answer) : Prop :=
  ∀ state source, (compiler state source).1 = f source

theorem Compiler.Computes.bytes_of_compile {f : String → Answer} {g : Gateway σ}
    (hg : g.compiler.Computes f) (source : String) :
    (g.compile source).1.map (·.bytes) = (f source).artifact := by
  rw [Gateway.compile_result, hg g.state source]
  cases (f source).artifact <;> rfl

end Playground
