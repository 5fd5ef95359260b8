import Playground.Proofs.Compiler.Calls
import Playground.Proofs.Compiler.Scratch
import Playground.Proofs.Config.Names

/-!
# What an external compiler returns

An external compiler is a process of which nothing is known but that it turns its arguments, its
environment and the contents of its directory into an exit status, two outputs and other contents.

* `Process` — such a process; `Process.launcher` starts it in a directory of a tree.
* `started`, `outcome` — what the process of one compile finds, and what it leaves.
* `compiler_eq` — one compile is one such process, and leaves the tree as it was.
* `Returned` — what comes back from one compile of a sequence; `returned` proves it.
-/

set_option autoImplicit false

namespace Playground

namespace Compiler

open Files Playground.Path Text

/-- What a process leaves. -/
structure Outcome where
  status : Status
  /-- What it wrote to its standard output. -/
  output : List UInt8
  /-- What it wrote to its standard error. -/
  errors : List UInt8
  /-- What is in its directory now. -/
  files : Contents

/-- A process that depends on its arguments, its environment and the contents of its directory. -/
abbrev Process := List String → List (String × String) → Tree → Outcome

/-- Starts the process, which always succeeds. Outside its directory the process changes nothing. -/
def Process.launcher (process : Process) : Launcher := fun t inv =>
  let o := process inv.arguments inv.environment (t.below inv.directory)
  .ok ⟨o.status, o.output, o.errors, t.graft inv.directory o.files⟩

namespace External

variable (x : External) (process : Process) (t : Tree) (source : String)

/-- The contents of the directory in which a process is started: the source and nothing else. -/
def started : Tree := ⟨[([x.config.sourceName], .file source.toUTF8.toList false)]⟩

/-- The tree in which a process is started. -/
def startTree : Tree :=
  (opened t).put (scratch t ++ [x.config.sourceName]) (.file source.toUTF8.toList false)

/-- What the process of a compile leaves. -/
def outcome : Outcome :=
  process x.config.expandedCommand.tail x.bindings (x.started source)

/-- What the compiler gets to know of a process that ended. -/
def report (o : Outcome) : Report :=
  ⟨o.status, o.output, o.errors, (opened t).graft (scratch t) o.files⟩

variable {x process t source}

theorem report_status (t : Tree) (o : Outcome) : (report t o).status = o.status := rfl

theorem write_source (haccepted : Config.Accepted x.config) (hready : x.Ready t) :
    (opened t).write (scratch t) (pathIn (scratch t) x.config.sourceName) source.toUTF8.toList =
      .ok (x.startTree t source) :=
  write_opened (hready.isOpen haccepted.source.1) hready.wellFormed
    (hready.isName_source haccepted.source.1 haccepted.source.2) _

theorem below_startTree (hready : x.Ready t) :
    (x.startTree t source).below (scratch t) = x.started source :=
  Tree.below_put hready.clear (List.cons_ne_nil _ _)

/-- The process finds the source, and what it leaves takes the place of the source. -/
theorem launch_startTree (hlauncher : x.launcher = process.launcher) (hready : x.Ready t) :
    x.launcher (x.startTree t source) (x.invocation (scratch t)) =
      .ok (report t (x.outcome process source)) := by
  have hbelow : isBelow (scratch t) (scratch t ++ [x.config.sourceName]) :=
    isBelow_append _ (List.cons_ne_nil _ _)
  rw [hlauncher, Process.launcher]
  dsimp only [invocation]
  rw [below_startTree hready, startTree, Tree.graft_put hbelow]
  rfl

/-- **One compile is one process**, started with the source alone in its directory. The tree is left
as it was. -/
theorem compiler_eq (hlauncher : x.launcher = process.launcher)
    (haccepted : Config.Accepted x.config) (hready : x.Ready t) (source : String) :
    x.compiler t source =
      (x.collect (scratch t) (report t (x.outcome process source)), t) := by
  have hkeep : ((opened t).graft (scratch t) (x.outcome process source).files).erase (scratch t) =
      t := by
    rw [Tree.erase_graft, opened, Tree.erase_put_of_clear hready.clear]
  unfold compiler compileIn
  dsimp only
  rw [← opened, write_source haccepted hready]
  dsimp only
  rw [launch_startTree hlauncher hready]
  exact congrArg (Prod.mk _) hkeep

/-! ## Answers -/

/-- The bytes under the name of the artifact in the directory of an ended process. -/
def Leaves (x : External) (t : Tree) (o : Outcome) (bytes : List UInt8) : Prop :=
  o.files.Has (opened t) (scratch t) x.config.outputName bytes

variable {o : Outcome} {bytes : List UInt8}

theorem collect_failed (h : o.status.isSuccess = false) :
    x.collect (scratch t) (report t o) = .failure (report t o).failurePayload := by
  rw [collect, report_status, h]
  rfl

theorem collect_succeeded (h : o.status.isSuccess) :
    x.collect (scratch t) (report t o) =
      match (report t o).tree.read (scratch t) (pathIn (scratch t) x.config.outputName) with
      | .ok bytes => .bytes bytes
      | .error e => .failure (readFailure x.config.outputName e) := by
  rw [collect, report_status, h]
  rfl

/-- What is read is what the process left. -/
theorem read_report_iff (haccepted : Config.Accepted x.config) (hready : x.Ready t) :
    (report t o).tree.read (scratch t) (pathIn (scratch t) x.config.outputName) = .ok bytes ↔
      x.Leaves t o bytes := by
  rw [pathIn_scratch t haccepted.output.1]
  exact Contents.read_graft_iff (hready.isOpen haccepted.source.1) haccepted.output.1
    haccepted.output.2 _

theorem collect_of_leaves (haccepted : Config.Accepted x.config) (hready : x.Ready t)
    (h : o.status.isSuccess) (hleaves : x.Leaves t o bytes) :
    x.collect (scratch t) (report t o) = .bytes bytes := by
  rw [collect_succeeded h, (read_report_iff haccepted hready).mpr hleaves]

theorem collect_of_not_leaves (haccepted : Config.Accepted x.config) (hready : x.Ready t)
    (h : o.status.isSuccess) (hleaves : ∀ bytes, ¬ x.Leaves t o bytes) :
    ∃ e, x.collect (scratch t) (report t o) = .failure (readFailure x.config.outputName e) := by
  rw [collect_succeeded h]
  cases hr : (report t o).tree.read (scratch t) (pathIn (scratch t) x.config.outputName) with
  | ok bytes => exact absurd ((read_report_iff haccepted hready).mp hr) (hleaves bytes)
  | error e => exact ⟨e, rfl⟩

theorem collect_ne_breakdown (directory : Place) (r : Report) (message : Option String) :
    x.collect directory r ≠ .breakdown message := by
  unfold collect
  split
  · nofun
  · split <;> nofun

/-- An artifact is what the process left under the name, if that is anything. -/
theorem artifact_collect_iff (haccepted : Config.Accepted x.config) (hready : x.Ready t) :
    (x.collect (scratch t) (report t o)).artifact = .ok bytes ↔
      o.status.isSuccess ∧ bytes ≠ [] ∧ x.Leaves t o bytes := by
  cases hs : o.status.isSuccess with
  | false =>
    rw [collect_failed hs]
    exact ⟨nofun, nofun⟩
  | true =>
    rw [collect_succeeded hs]
    constructor
    · intro h
      cases hr : (report t o).tree.read (scratch t) (pathIn (scratch t) x.config.outputName) with
      | error e => rw [hr] at h; cases h
      | ok read =>
        rw [hr] at h
        have hread := (read_report_iff haccepted hready).mp hr
        cases read with
        | nil => cases h
        | cons b rest =>
          cases h
          exact ⟨rfl, List.cons_ne_nil _ _, hread⟩
    · rintro ⟨-, hne, hleaves⟩
      rw [(read_report_iff haccepted hready).mpr hleaves]
      cases bytes with
      | nil => exact absurd rfl hne
      | cons b rest => rfl

/-- The configured variables are set, and the others are those that were given. -/
theorem lookup_bindings (x : External) (name : String) :
    x.bindings.lookup name = (x.config.env.lookup name).or (x.environment.lookup name) := by
  have hbindings : x.bindings =
      x.environment.filter (fun e => (x.config.env.lookup e.1).isNone) ++ x.config.env := rfl
  rw [hbindings, List.lookup_append,
    Tree.lookup_filter (fun n => (x.config.env.lookup n).isNone)]
  cases x.config.env.lookup name with
  | none => simp
  | some v => simp

/-! ## Compiles one after another -/

/-- A compile of a text through a gateway whose process leaves `o`. -/
structure Returned (x : External) (t : Tree) (g : Gateway Tree) (source : String) (o : Outcome) :
    Prop where
  /-- The process has arguments: what is behind the program in the command. -/
  command : ∃ program, x.config.expandedCommand = program :: x.config.expandedCommand.tail
  /-- The configured variables are set. -/
  environment : ∀ name,
    x.bindings.lookup name = (x.config.env.lookup name).or (x.environment.lookup name)
  /-- The process is started with the source alone in its directory. -/
  start : ∃ t', (opened t).write (scratch t) (pathIn (scratch t) x.config.sourceName)
      source.toUTF8.toList = .ok t' ∧ t'.below (scratch t) = x.started source ∧
    x.launcher t' (x.invocation (scratch t)) = .ok (report t o)
  /-- There is no artifact yet. -/
  absent : (x.started source).find? [x.config.outputName] = none
  /-- What this process left under the name of the artifact comes back, and nothing else. -/
  artifact : ∀ bytes, (g.compile source).1.map (·.bytes) = .ok bytes ↔
    o.status.isSuccess ∧ bytes ≠ [] ∧ x.Leaves t o bytes
  /-- A process that failed is told by a diagnostic. -/
  failed : o.status.isSuccess = false → (g.compile source).1 = .error (.ofPayload
    (Report.choosePayload (Utf8.decodeLossy o.errors) (Utf8.decodeLossy o.output) o.status))
  /-- So is an empty artifact. -/
  empty : o.status.isSuccess → x.Leaves t o [] →
    (g.compile source).1 = .error (.ofPayload Answer.emptyArtifact)
  /-- So is an artifact that is not there or cannot be read. -/
  unreadable : o.status.isSuccess → (∀ bytes, ¬ x.Leaves t o bytes) →
    ∃ e, (g.compile source).1 = .error (.ofPayload (readFailure x.config.outputName e))
  /-- The compiler does not break down. -/
  unbroken : ∀ message, (g.compiler g.state source).1 ≠ .breakdown message
  /-- Nothing is left for a later compile. -/
  state : (g.compile source).2.state = t

theorem expandedCommand_of_accepted (h : Config.Accepted x.config) :
    ∃ program, x.config.expandedCommand = program :: x.config.expandedCommand.tail := by
  obtain ⟨name, arguments, hcommand, -⟩ := h.program
  rw [CompilerConfig.expandedCommand, Config.expandCommand, hcommand]
  exact ⟨_, rfl⟩

theorem absent_of_accepted (h : Config.Accepted x.config) (source : String) :
    (x.started source).find? [x.config.outputName] = none := by
  have hne : [x.config.outputName] ≠ [x.config.sourceName] := fun hc =>
    h.distinct (List.cons.inj hc).1.symm
  rw [Tree.find?_of_ne_nil (List.cons_ne_nil _ _), started, List.lookup_cons, beq_false_of_ne hne]
  rfl

/-- **An external compile returns what its process wrote, and nothing else**, whatever was compiled
before. -/
theorem returned (hlauncher : x.launcher = process.launcher)
    (hvalid : Config.validateCompiler x.config = .ok ()) (hready : x.Ready t)
    (before : List String) (source : String) :
    x.Returned t ((Gateway.new x.compiler t).compileAll before) source
      (x.outcome process source) := by
  have haccepted := Config.accepted_of_validateCompiler hvalid
  have hone := compiler_eq hlauncher haccepted hready
  have hcompiler : ((Gateway.new x.compiler t).compileAll before).compiler = x.compiler :=
    Gateway.compileAll_compiler before _
  have hstate : ((Gateway.new x.compiler t).compileAll before).state = t :=
    Gateway.compileAll_state before rfl fun text => congrArg Prod.snd (hone text)
  -- after any sequence the gateway has the same compiler and the same tree
  generalize (Gateway.new x.compiler t).compileAll before = g at hcompiler hstate
  have hanswer : (g.compiler g.state source).1 =
      x.collect (scratch t) (report t (x.outcome process source)) := by
    rw [hcompiler, hstate, hone]
  have hresult := g.compile_result source
  rw [hanswer] at hresult
  refine ⟨expandedCommand_of_accepted haccepted, lookup_bindings x, ?_,
    absent_of_accepted haccepted source, ?_, ?_, ?_, ?_, ?_, ?_⟩
  · exact ⟨_, write_source haccepted hready, below_startTree hready,
      launch_startTree hlauncher hready⟩
  · intro bytes
    rw [← artifact_collect_iff haccepted hready, hresult]
    cases (x.collect (scratch t) (report t (x.outcome process source))).artifact <;>
      simp [Except.map]
  · intro hs
    rw [hresult, collect_failed hs]
    rfl
  · intro hs hleaves
    rw [hresult, collect_of_leaves haccepted hready hs hleaves]
    rfl
  · intro hs hleaves
    obtain ⟨e, he⟩ := collect_of_not_leaves haccepted hready hs hleaves
    exact ⟨e, by rw [hresult, he]; rfl⟩
  · intro message
    rw [hanswer]
    exact collect_ne_breakdown _ _ _
  · rw [Gateway.compile_state, hcompiler, hstate, hone]

/-- A tree with nothing but the directory in which directories for compiles are made. -/
def bareTree : Tree := ⟨[(scratchParent, .directory)]⟩

theorem wellFormed_bareTree : bareTree.WellFormed := Tree.wellFormed_of_entries (by decide)

/-- A single file as the contents of a directory. -/
def singleFile (name : String) (h : IsName name) (bytes : List UInt8) : Contents where
  tree := ⟨[([name], .file bytes false)]⟩
  named := by
    intro p hp
    rw [List.mem_singleton.mp hp]
    refine ⟨List.cons_ne_nil _ _, fun n hn => ?_⟩
    rw [List.mem_singleton.mp hn]
    exact h

theorem isName_b : IsName "b" := by decide

/-- A process that leaves a file with a byte for each variable that is set. -/
def countingProcess : Process := fun _ environment _ =>
  ⟨.exited 0, [], [], singleFile "b" isName_b (environment.map fun _ => 7)⟩

/-- The second text gets an artifact from its own process. -/
theorem returned_counting :
    let x : External := ⟨⟨["cc"], "a", "b", [("LEVEL", "1")]⟩, "/cc",
      countingProcess.launcher, [("HOME", "/")]⟩
    Config.validateCompiler x.config = .ok () ∧ x.Ready bareTree ∧
      (((Gateway.new x.compiler bareTree).compileAll ["one"]).compile "two").1.map (·.bytes) =
        .ok [7, 7] := by
  intro x
  have hvalid : Config.validateCompiler x.config = .ok () := by decide
  have hready : x.Ready bareTree :=
    ready_of_isName wellFormed_bareTree rfl (by decide)
      ⟨⟨by decide, by decide⟩, by decide, by decide, by decide, by decide⟩
  have hlauncher : x.launcher = countingProcess.launcher := rfl
  have h := returned hlauncher hvalid hready ["one"] "two"
  have hleaves : x.Leaves bareTree (x.outcome countingProcess "two") [7, 7] :=
    .entry (e := .file [7, 7] false) rfl rfl
  exact ⟨hvalid, hready, (h.artifact [7, 7]).mpr ⟨rfl, List.cons_ne_nil _ _, hleaves⟩⟩

end External

end Compiler

end Playground
