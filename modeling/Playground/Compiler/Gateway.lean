import Playground.Diagnostic

/-!
# The gateway to the compiler

A compiler is anything that answers a source text; what it answers may depend on what it was asked
before. The gateway counts the calls and turns every answer that is no artifact into a diagnostic.

* `Compiler` — a compiler with states `σ`.
* `Answer.artifact` — what an answer is worth.
* `Gateway.compile` — one call.
-/

set_option autoImplicit false

namespace Playground

/-- How a compiler answers. -/
inductive Answer where
  /-- The artifact; none at all if there are no bytes. -/
  | bytes (artifact : List UInt8)
  /-- What the compiler has to say about a failure. -/
  | failure (payload : String)
  /-- The compiler itself broke down, with a message if it left one. -/
  | breakdown (message : Option String)
  deriving DecidableEq, Repr

namespace Answer

def emptyArtifact : String := "compiler produced an empty artifact"

/-- The payload of a breakdown. -/
def breakdownPayload (message : Option String) : String :=
  "compiler panicked: " ++ message.getD "unknown panic payload"

/-- The bytes of an artifact, or the diagnostic in their place. -/
def artifact : Answer → Except Diagnostic (List UInt8)
  | bytes [] => .error (.ofPayload emptyArtifact)
  | bytes artifact => .ok artifact
  | failure payload => .error (.ofPayload payload)
  | breakdown message => .error (.ofPayload (breakdownPayload message))

end Answer

/-- A compiler: its answer to a source text in a state, and the state after that. -/
abbrev Compiler (σ : Type) := σ → String → Answer × σ

/-- A compiled program. Two artifacts of equal bytes are told apart by the compile they come from. -/
structure Artifact where
  /-- The number of the successful compile that it comes from. -/
  serial : Nat
  bytes : List UInt8
  deriving DecidableEq, Repr

/-- The gateway to a compiler. -/
structure Gateway (σ : Type) where
  compiler : Compiler σ
  state : σ
  /-- Number of calls so far. -/
  invocations : Nat
  /-- Number of artifacts so far. -/
  produced : Nat

namespace Gateway

variable {σ : Type}

/-- A gateway that was not used yet. -/
def new (compiler : Compiler σ) (state : σ) : Gateway σ := ⟨compiler, state, 0, 0⟩

/-- Calls the compiler once. -/
def compile (g : Gateway σ) (source : String) : Except Diagnostic Artifact × Gateway σ :=
  let (answer, state) := g.compiler g.state source
  match answer.artifact with
  | .error d => (.error d, { g with state, invocations := g.invocations + 1 })
  | .ok bytes =>
    (.ok ⟨g.produced, bytes⟩,
      { g with state, invocations := g.invocations + 1, produced := g.produced + 1 })

end Gateway

end Playground
