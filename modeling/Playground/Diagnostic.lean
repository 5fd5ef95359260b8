import Playground.Text.Lines

/-!
# Compiler diagnostics

What a failed compile tells the reader: the lines of the compiler's own output, in a normal form.

* `ofPayload` — the lines of a failure payload; a payload that says nothing gets a line of its own.
* `display` — the lines as one text.
-/

set_option autoImplicit false

namespace Playground

open Text

/-- The lines that explain why a compile failed. -/
structure Diagnostic where
  lines : List String
  deriving DecidableEq, Repr

namespace Diagnostic

/-- What stands for a payload that holds nothing to read. -/
def unexplained : Diagnostic := ⟨["compilation failed"]⟩

/-- The diagnostic of a failure payload. Each line loses one carriage return at its end, empty
lines at the end of the payload are dropped, and blank lines alone explain nothing. -/
def ofPayload (payload : String) : Diagnostic :=
  let lines := Lines.dropEmptyEnd ((Lines.cut '\n' payload.toList).map Lines.dropReturn)
  if lines.all Lines.isBlank then unexplained else ⟨lines.map String.ofList⟩

/-- The diagnostic as one text. -/
def display (d : Diagnostic) : String := "\n".intercalate d.lines

end Diagnostic

end Playground
