/-!
# The line console

A log of lines, bounded if it has a history limit, and a renderer that hears of every change.
A renderer may give up on a call; the console then stands as if the call had not come, except that
a clear has already emptied it.

* `Renderer` — a listener and the calls it got.
* `Console.writeLine`, `Console.clear`, `Console.writeLines` — what a call does to the log.
-/

set_option autoImplicit false

namespace Playground

namespace Console

/-- What a renderer is told. -/
inductive Event where
  | cleared
  | line (text : String)
  deriving DecidableEq, Repr

/-- One call into a renderer. -/
structure Call where
  event : Event
  /-- Whether the renderer gave up on the call. -/
  failed : Bool
  deriving DecidableEq, Repr

end Console

open Console

/-- A listener to the console. -/
structure Renderer where
  /-- Whether the renderer gives up on an event, given the calls it got before. -/
  fails : Array Call → Event → Bool
  /-- The calls it got, in order. -/
  calls : Array Call

namespace Renderer

/-- A renderer that never gives up. -/
def steady : Renderer := ⟨fun _ _ => false, #[]⟩

/-- A renderer that gives up on exactly the line `text`. -/
def failingOn (text : String) : Renderer := ⟨fun _ event => event = .line text, #[]⟩

/-- Whether the renderer gives up when it is told `event` now. -/
def refuses (r : Renderer) (event : Event) : Bool := r.fails r.calls event

/-- The renderer after it was told `event`. -/
def tell (r : Renderer) (event : Event) : Renderer :=
  { r with calls := r.calls.push ⟨event, r.refuses event⟩ }

/-- The events the renderer took in. -/
def heard (r : Renderer) : List Event := (r.calls.toList.filter (!·.failed)).map (·.event)

end Renderer

/-- A log of lines with an optional bound and an optional renderer. -/
structure Console where
  /-- The lines kept, oldest first. -/
  buffer : Array String
  /-- Greatest number of lines kept. -/
  historyLimit : Option Nat
  renderer : Option Renderer

namespace Console

/-- An empty console without a renderer. -/
def new (historyLimit : Option Nat) : Console := ⟨#[], historyLimit, none⟩

/-- The console with another renderer; the former one hears no more. -/
def setRenderer (c : Console) (r : Renderer) : Console := { c with renderer := some r }

/-- The lines kept, oldest first. -/
def lines (c : Console) : List String := c.buffer.toList

/-- What an operation leaves: the console, and whether the renderer cut the operation short. -/
structure Outcome where
  console : Console
  interrupted : Bool

/-- The last `limit` lines of a buffer; all of them without a limit. -/
def keepLast (limit : Option Nat) (buffer : Array String) : Array String :=
  match limit with
  | none => buffer
  | some n => if buffer.size ≤ n then buffer else buffer.extract (buffer.size - n) buffer.size

/-- Tells the renderer, if there is one, of an event. -/
def tell (c : Console) (event : Event) : Outcome :=
  match c with
  | ⟨buffer, limit, none⟩ => ⟨⟨buffer, limit, none⟩, false⟩
  | ⟨buffer, limit, some r⟩ =>
    let refused := r.refuses event
    ⟨⟨buffer, limit, some (r.tell event)⟩, refused⟩

/-- Adds a line at the end. The renderer is told first; if it gives up, the line is not kept. -/
def writeLine (c : Console) (line : String) : Outcome :=
  match c.tell (.line line) with
  | ⟨console, true⟩ => ⟨console, true⟩
  | ⟨⟨buffer, limit, renderer⟩, false⟩ => ⟨⟨keepLast limit (buffer.push line), limit, renderer⟩, false⟩

/-- Adds lines in order, up to the first that the renderer gives up on. -/
def writeLines (c : Console) : List String → Outcome
  | [] => ⟨c, false⟩
  | line :: rest =>
    match c.writeLine line with
    | ⟨console, true⟩ => ⟨console, true⟩
    | ⟨console, false⟩ => console.writeLines rest

/-- Empties the console, then tells the renderer. -/
def clear (c : Console) : Outcome := { c with buffer := #[] }.tell .cleared

/-- The events the present renderer took in. -/
def heard (c : Console) : List Event :=
  match c.renderer with
  | none => []
  | some r => r.heard

end Console

end Playground
