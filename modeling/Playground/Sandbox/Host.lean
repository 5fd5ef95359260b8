import Playground.Console
import Playground.Wasm.Machine
import Playground.Text.Utf8
import Playground.Text.Lines

/-!
# Printing

What happens when a program asks to print a range of its memory: the bytes are decoded, and every
line of them goes to the console unless the run has printed all it may.

* `Fault` — why a request is refused.
* `Host.print` — one request.
-/

set_option autoImplicit false

namespace Playground.Sandbox

open Wasm Text

/-- Why a print request is refused. -/
inductive Fault where
  /-- The range is not inside a memory of `size` bytes. -/
  | outOfBounds (offset length size : Nat)
  /-- All `limit` lines that the run may print are printed. -/
  | outputLimit (limit : Nat)
  deriving DecidableEq, Repr

/-- The fault in words. -/
def Fault.message : Fault → String
  | outOfBounds offset length size =>
    "print_string: range of " ++ toString length ++ " bytes at offset " ++ toString offset ++
      " is outside linear memory of " ++ toString size ++ " bytes"
  | outputLimit limit => "output limit of " ++ toString limit ++ " lines exceeded"

/-- The bytes of a range of a memory. -/
def readRange (memory : Memory) (offset length : UInt64) : Except Fault (List UInt8) :=
  match memory.range? offset.toNat length.toNat with
  | some bytes => .ok bytes
  | none => .error (.outOfBounds offset.toNat length.toNat memory.size)

theorem readRange_of_inside {memory : Memory} {offset length : UInt64}
    (h : offset.toNat + length.toNat ≤ memory.size) :
    readRange memory offset length = .ok (memory.slice offset.toNat length.toNat) := by
  simp only [readRange, Memory.range?, if_pos h]

theorem readRange_of_outside {memory : Memory} {offset length : UInt64}
    (h : memory.size < offset.toNat + length.toNat) :
    readRange memory offset length =
      .error (.outOfBounds offset.toNat length.toNat memory.size) := by
  simp only [readRange, Memory.range?, if_neg (Nat.not_le.mpr h)]

/-- What the sandbox keeps during a run. -/
structure Host where
  console : Console
  /-- Greatest number of lines that the run may print. -/
  maxLines : Option Nat
  /-- Number of lines that the run has printed. -/
  written : Nat
  /-- The request that was refused, if one was. -/
  fault : Option Fault

namespace Host

/-- The host at the start of a run. -/
def new (console : Console) (maxLines : Option Nat) : Host := ⟨console, maxLines, 0, none⟩

/-- The limit on lines, if it is reached. -/
def exhausted (h : Host) : Option Nat :=
  match h.maxLines with
  | none => none
  | some n => if n ≤ h.written then some n else none

/-- Sends one line to the console, or refuses it. -/
def writeLine (h : Host) (line : String) : Host :=
  match h.exhausted with
  | some n => { h with fault := some (.outputLimit n) }
  | none => { h with console := (h.console.writeLine line).console, written := h.written + 1 }

/-- Sends lines to the console up to the first that is refused. -/
def writeLines (h : Host) : List String → Host
  | [] => h
  | line :: rest =>
    let h := h.writeLine line
    if h.fault.isSome then h else h.writeLines rest

/-- The lines that a byte string prints. -/
def linesOf (bytes : List UInt8) : List String := Lines.printed (Utf8.decodeLossy bytes)

/-- Serves one request. The range is looked at before the output limit is. -/
def print (h : Host) (memory : Memory) (offset length : UInt64) : Host :=
  match readRange memory offset length with
  | .error fault => { h with fault := some fault }
  | .ok bytes => h.writeLines (linesOf bytes)

end Host

end Playground.Sandbox
