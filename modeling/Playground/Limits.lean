/-!
# Resource limits

Caps on what one run of a program may use. An unset cap does not bind.

* `withOverrides` — the caps of one run laid over the configured ones, field by field.
* `maxMemoryBytes` — the memory cap in bytes.
-/

set_option autoImplicit false

namespace Playground

/-- Bytes in one page of linear memory. -/
def pageSize : Nat := 65536

/-- Caps applied to a run of a program. -/
structure Limits where
  /-- Greatest size of a linear memory, in pages. -/
  maxMemoryPages : Option Nat
  /-- Greatest number of lines that one run may print. -/
  maxOutputLines : Option Nat
  deriving DecidableEq, Repr

namespace Limits

/-- No caps at all. -/
def unlimited : Limits := ⟨none, none⟩

/-- The given caps, except where `overrides` sets one. -/
def withOverrides (base overrides : Limits) : Limits where
  maxMemoryPages := overrides.maxMemoryPages.or base.maxMemoryPages
  maxOutputLines := overrides.maxOutputLines.or base.maxOutputLines

/-- The memory cap in bytes. -/
def maxMemoryBytes (limits : Limits) : Option Nat := limits.maxMemoryPages.map (· * pageSize)

end Limits

end Playground
