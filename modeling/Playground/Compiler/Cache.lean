import Playground.Compiler.Gateway

/-!
# The artifact cache

One slot for the artifact of the last successful compile. The slot knows nothing of sources: whoever
changes the source must empty it.

* `Cache.fetch` — the artifact held, or a new one.
-/

set_option autoImplicit false

namespace Playground

/-- A slot for one artifact. -/
structure Cache where
  held : Option Artifact
  deriving DecidableEq, Repr

/-- An artifact, and whether the cache had it. -/
structure Fetched where
  artifact : Artifact
  hit : Bool
  deriving DecidableEq, Repr

namespace Cache

variable {σ : Type}

def empty : Cache := ⟨none⟩

/-- The artifact held, whatever the source is; otherwise the source is compiled and the artifact
kept. A failed compile leaves the cache empty. -/
def fetch (c : Cache) (g : Gateway σ) (source : String) :
    Except Diagnostic Fetched × Cache × Gateway σ :=
  match c.held with
  | some artifact => (.ok ⟨artifact, true⟩, c, g)
  | none =>
    match g.compile source with
    | (.ok artifact, g) => (.ok ⟨artifact, false⟩, ⟨some artifact⟩, g)
    | (.error d, g) => (.error d, c, g)

end Cache

end Playground
