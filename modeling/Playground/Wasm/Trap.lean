/-!
# Traps

The ways in which executing code can have no result, and the words for them.
-/

set_option autoImplicit false

namespace Playground.Wasm

/-- Why execution stopped without a result. -/
inductive Trap where
  | unreachable
  | memoryBounds
  | tableIndex
  /-- A bulk operation reached outside its table. -/
  | tableInit
  | tableFill
  | tableCopy
  | nullFunction
  | divisionByZero
  | integerOverflow
  | notANumber
  | stackExhausted
  | signatureMismatch
  /-- The step budget of the run is spent. -/
  | outOfFuel
  deriving DecidableEq, Repr

/-- The trap in words. -/
def Trap.message : Trap → String
  | unreachable => "wasm `unreachable` instruction executed"
  | memoryBounds => "out of bounds memory access"
  | tableIndex => "undefined element: out of bounds table access"
  | tableInit => "out of bounds table access: `table.init`"
  | tableFill => "out of bounds table access: `table.fill`"
  | tableCopy => "out of bounds table access: `table.copy`"
  | nullFunction => "uninitialized element 2"
  | divisionByZero => "integer divide by zero"
  | integerOverflow => "integer overflow"
  | notANumber => "invalid conversion to integer"
  | stackExhausted => "call stack exhausted"
  | signatureMismatch => "indirect call type mismatch"
  | outOfFuel => "all fuel consumed by WebAssembly"

end Playground.Wasm
