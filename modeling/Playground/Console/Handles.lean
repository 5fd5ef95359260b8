import Playground.Console

/-!
# Handles to a console

A console is shared. Its users have handles, a handle can be cloned, and all handles to a console
lead to one cell of memory, in which the console lies behind a lock. A renderer that gives up does
so while the lock is held, which poisons it; those who take it later overlook the poison.

* `Operation` — what can be done to a console.
* `Locked.operate` — an operation through the lock.
* `Pool.use` — what is done with handles; `Pool.view` is what a handle shows.
-/

set_option autoImplicit false

namespace Playground.Console

/-- What can be done to a console. -/
inductive Operation where
  | writeLine (line : String)
  | writeLines (lines : List String)
  | clear
  | setRenderer (renderer : Renderer)

/-- The console after an operation. -/
def operate (c : Console) : Operation → Outcome
  | .writeLine line => c.writeLine line
  | .writeLines lines => c.writeLines lines
  | .clear => c.clear
  | .setRenderer renderer => ⟨c.setRenderer renderer, false⟩

/-! ## The lock -/

/-- A console behind a lock. -/
structure Locked where
  guarded : Console
  /-- Whether somebody was cut short while holding the lock. -/
  poisoned : Bool

namespace Locked

/-- A new console behind a lock. -/
def new (historyLimit : Option Nat) : Locked := ⟨.new historyLimit, false⟩

/-- What taking the lock gives; the error of a poisoned lock still comes with the console. -/
def take (l : Locked) : Except Console Console :=
  if l.poisoned then .error l.guarded else .ok l.guarded

/-- The console, whether or not the lock is poisoned. -/
def console (l : Locked) : Console :=
  match l.take with
  | .ok c => c
  | .error c => c

/-- What was done while holding the lock, and whether it was cut short. -/
def hold (l : Locked) (f : Console → Outcome) : Locked × Bool :=
  (⟨(f l.console).console, l.poisoned || (f l.console).interrupted⟩, (f l.console).interrupted)

/-- Writes lines. The lock is taken for each of them. -/
def writeLines (l : Locked) : List String → Locked × Bool
  | [] => (l, false)
  | line :: rest =>
    match l.hold (·.writeLine line) with
    | (l, true) => (l, true)
    | (l, false) => l.writeLines rest

/-- Does an operation through the lock. -/
def operate (l : Locked) : Operation → Locked × Bool
  | .writeLine line => l.hold (·.writeLine line)
  | .writeLines lines => l.writeLines lines
  | .clear => l.hold (·.clear)
  | .setRenderer renderer => l.hold fun c => ⟨c.setRenderer renderer, false⟩

end Locked

/-! ## Handles -/

/-- Consoles in memory, and the handles to them. -/
structure Pool where
  cells : Array Locked
  /-- For each handle, the cell that it leads to. -/
  handles : Array Nat

/-- What can be done with handles. -/
inductive Use where
  /-- A new console is made, with a handle to it. -/
  | create (historyLimit : Option Nat)
  | clone (handle : Nat)
  | operate (handle : Nat) (operation : Operation)

namespace Pool

/-- The pool with a new console behind a new handle. -/
def create (m : Pool) (historyLimit : Option Nat) : Pool :=
  ⟨m.cells.push (.new historyLimit), m.handles.push m.cells.size⟩

/-- The pool after a use of it. A handle that there is not does nothing. -/
def use (m : Pool) : Use → Pool
  | .create limit => m.create limit
  | .clone handle =>
    match m.handles[handle]? with
    | some k => { m with handles := m.handles.push k }
    | none => m
  | .operate handle o =>
    match m.handles[handle]? with
    | some k => { m with cells := m.cells.modify k fun l => (l.operate o).1 }
    | none => m

/-- The pool after uses, one after another. -/
def useAll (m : Pool) (us : List Use) : Pool := us.foldl use m

/-- The console in a cell. -/
def consoleAt? (m : Pool) (k : Nat) : Option Console := m.cells[k]?.map (·.console)

/-- The lines that a handle shows. -/
def view (m : Pool) (handle : Nat) : Option (List String) :=
  m.handles[handle]? >>= fun k => (m.consoleAt? k).map (·.lines)

end Pool

end Playground.Console
