import Playground.Proofs.CommandLine.Opened
import Playground.Proofs.Compiler.External
import Playground.Proofs.Compiler.Resolution
import Playground.Proofs.Pipeline.Unbroken

/-!
# Limits of one run

The limits of a run come from the settings and from options of the command, which are laid over
them. Options and settings are the same mechanism as long as no option is zero: settings with a zero
in them are refused before anything is opened, but nothing looks at the options.

* `Config.withLimits` — settings with options written into them.
* `validate_withLimits_iff`, `validate_withLimits_of_zero` — when such settings are accepted, and
  what is said of those that are not.
* `openPipeline_withLimits` — both ways lead to the same pipeline.
* `runFile_eq` — the command that runs a program.
* `options_eq_settings` — options against settings, for any options.
* `zero_option_runs` — a program that runs with an option that no settings can stand for.
-/

set_option autoImplicit false

namespace Playground

open Files Compiler Script

/-! ## Settings with other limits -/

namespace Limits

/-- No limit is zero. -/
def Positive (l : Limits) : Prop := l.maxMemoryPages ≠ some 0 ∧ l.maxOutputLines ≠ some 0

instance (l : Limits) : Decidable l.Positive :=
  inferInstanceAs (Decidable (l.maxMemoryPages ≠ some 0 ∧ l.maxOutputLines ≠ some 0))

/-- A value that is laid over one that is not zero decides whether there is a zero. -/
theorem or_eq_zero_iff {given base : Option Nat} (h : base ≠ some 0) :
    given.or base = some 0 ↔ given = some 0 := by
  cases given with
  | none => exact ⟨fun hbase => absurd hbase h, nofun⟩
  | some n => exact Iff.rfl

theorem positive_withOverrides_iff {base given : Limits} (h : base.Positive) :
    (base.withOverrides given).Positive ↔ given.Positive :=
  and_congr (not_congr (or_eq_zero_iff h.1)) (not_congr (or_eq_zero_iff h.2))

end Limits

namespace Config

/-- The settings with other limits laid over theirs. -/
def withLimits (c : Config) (given : Limits) : Config :=
  { c with sandbox := { c.sandbox with limits := c.sandbox.limits.withOverrides given } }

variable {c : Config} {given : Limits}

/-- Without options the limits that were written into the settings hold. -/
theorem effectiveLimits_withLimits (c : Config) (given : Limits) :
    (c.withLimits given).effectiveLimits (some .unlimited) = c.effectiveLimits (some given) := rfl

/-- What is asked of the settings apart from their limits. -/
structure Sound (c : Config) : Prop where
  compiler : validateCompiler c.compiler = .ok ()
  space : (!c.sandbox.space.isEmpty) = true
  entryPoint : (c.sandbox.entryPoint != some "") = true
  history : (c.console.historyLimit != some 0) = true

theorem require_of_true {condition : Bool} (h : condition = true) (v : Violation) :
    require condition v = .ok () := by
  rw [require, if_pos h]

/-- Of sound settings only the limits are left to be looked at. -/
theorem Sound.validate_eq (h : c.Sound) : c.validate = (do
    require (c.sandbox.limits.maxMemoryPages != some 0) .noMemoryPages
    require (c.sandbox.limits.maxOutputLines != some 0) .noOutputLines) := by
  rw [validate, h.compiler, require_of_true h.space, require_of_true h.entryPoint,
    require_of_true h.history]
  cases require (c.sandbox.limits.maxMemoryPages != some 0) .noMemoryPages with
  | error v => rfl
  | ok u => cases require (c.sandbox.limits.maxOutputLines != some 0) .noOutputLines <;> rfl

/-- **Accepted settings** are sound and have no limit that is zero. -/
theorem validate_eq_ok_iff : c.validate = .ok () ↔ c.Sound ∧ c.sandbox.limits.Positive := by
  constructor
  · intro h
    obtain ⟨hcompiler, h⟩ := both_ok h
    obtain ⟨hspace, h⟩ := both_ok h
    obtain ⟨hentry, h⟩ := both_ok h
    obtain ⟨hmemory, h⟩ := both_ok h
    obtain ⟨hlines, hhistory⟩ := both_ok h
    exact ⟨⟨hcompiler, require_eq_ok hspace, require_eq_ok hentry, require_eq_ok hhistory⟩,
      bne_iff_ne.mp (require_eq_ok hmemory), bne_iff_ne.mp (require_eq_ok hlines)⟩
  · rintro ⟨hsound, hmemory, hlines⟩
    rw [hsound.validate_eq, require_of_true (bne_iff_ne.mpr hmemory),
      require_of_true (bne_iff_ne.mpr hlines)]
    rfl

theorem Sound.withLimits (h : c.Sound) (given : Limits) : (c.withLimits given).Sound :=
  ⟨h.compiler, h.space, h.entryPoint, h.history⟩

/-- **Accepted settings stay accepted** unless a zero is written into them. -/
theorem validate_withLimits_iff (hc : c.validate = .ok ()) :
    (c.withLimits given).validate = .ok () ↔ given.Positive := by
  obtain ⟨hsound, hpositive⟩ := validate_eq_ok_iff.mp hc
  have hlimits : (c.withLimits given).sandbox.limits.Positive ↔ given.Positive :=
    Limits.positive_withOverrides_iff hpositive
  rw [validate_eq_ok_iff, hlimits]
  exact and_iff_right (hsound.withLimits given)

/-- What is said of limits that are zero: of the memory first. -/
def zeroLimit (given : Limits) : Violation :=
  if given.maxMemoryPages = some 0 then .noMemoryPages else .noOutputLines

theorem validate_withLimits_of_zero (hc : c.validate = .ok ()) (hgiven : ¬ given.Positive) :
    (c.withLimits given).validate = .error (zeroLimit given) := by
  obtain ⟨hsound, hmemory, hlines⟩ := validate_eq_ok_iff.mp hc
  rw [(hsound.withLimits given).validate_eq, zeroLimit]
  have hpages : (c.withLimits given).sandbox.limits.maxMemoryPages = some 0 ↔
      given.maxMemoryPages = some 0 := Limits.or_eq_zero_iff hmemory
  have hprinted : (c.withLimits given).sandbox.limits.maxOutputLines = some 0 ↔
      given.maxOutputLines = some 0 := Limits.or_eq_zero_iff hlines
  by_cases hzero : given.maxMemoryPages = some 0
  · rw [if_pos hzero, hpages.mpr hzero]
    rfl
  · have hout : given.maxOutputLines = some 0 := by
      by_contra hne
      exact hgiven ⟨hzero, hne⟩
    rw [if_neg hzero, require_of_true (bne_iff_ne.mpr (mt hpages.mp hzero)), hprinted.mpr hout]
    rfl

end Config

/-! ## The command that runs a program -/

section

variable {s : Surroundings} {c : Config} {given : Limits} {path : String} {p : Pipeline Tree}

/-- **Limits in the settings are limits set afterwards** as long as the settings are accepted. -/
theorem openPipeline_withLimits (hc : c.validate = .ok ()) (hgiven : given.Positive) :
    openPipeline s (c.withLimits given) path =
      (openPipeline s c path).map (·.setLimits (c.effectiveLimits (some given))) := by
  have hc' := (Config.validate_withLimits_iff hc).mpr hgiven
  have hcompiler : (c.withLimits given).compiler = c.compiler := rfl
  cases ht : readSource s.tree s.here path with
  | error f =>
    rw [openPipeline_of_unreadable ht, openPipeline_of_unreadable ht]
    rfl
  | ok text =>
    rw [openPipeline_of_valid ht hc, openPipeline_of_valid ht hc', hcompiler]
    cases s.compiler c.compiler <;> rfl

/-- With a zero in the settings nothing is opened. -/
theorem openPipeline_withLimits_of_zero (hc : c.validate = .ok ()) (hgiven : ¬ given.Positive) :
    openPipeline s (c.withLimits given) path =
      match readSource s.tree s.here path with
      | .error f => .error f
      | .ok _ => .error (.ofInit (.invalid (Config.zeroLimit given))) := by
  have hzero := Config.validate_withLimits_of_zero hc hgiven
  cases ht : readSource s.tree s.here path with
  | error f => rw [openPipeline_of_unreadable ht]
  | ok text => rw [openPipeline_of_invalid ht hzero]

/-- What is left after the action of running. -/
def ran (p : Pipeline Tree) : Finish := finish p.run.2 (!p.run.1.toBool)

theorem runFile_eq (s : Surroundings) (c : Config) (path : String) (given : Limits) :
    runFile s c path given =
      (openPipeline s c path).map fun p => ran (p.setLimits (c.effectiveLimits (some given))) := by
  rw [runFile]
  cases openPipeline s c path with
  | error f => rfl
  | ok p =>
    dsimp only [Except.map, ran]
    cases hrun : (p.setLimits (c.effectiveLimits (some given))).run with
    | mk result q =>
      cases result with
      | ok report => simp [bind, Except.bind, hrun, Except.toBool, pure, Except.pure]
      | error why => simp [bind, Except.bind, hrun, Except.toBool, pure, Except.pure]

/-- A compile always has something to report. -/
theorem Pipeline.compileLines_ne_nil (p : Pipeline Tree) : compileLines p.compile.1 ≠ [] := by
  rw [compile_eq]
  cases hl : p.lookup.1 with
  | ok a => exact List.cons_ne_nil _ _
  | error d =>
    obtain ⟨payload, rfl⟩ := payload_of_lookup_error hl
    exact Diagnostic.lines_ofPayload_ne_nil payload

theorem Pipeline.Opened.setLimits (h : p.Opened) (limits : Limits) : (p.setLimits limits).Opened :=
  ⟨h.held, h.heard, h.patient⟩

/-- What the command prints is what the run shows. -/
theorem output_ran (h : p.Opened) :
    (ran p).output = terminalText false (.cleared :: p.runLines.map .line) := by
  have hheard : p.run.2.console.heard = _ := Pipeline.heard_act h.patient .run
  rw [ran, finish, hheard, h.heard, Pipeline.events_run, List.nil_append]

/-- A program that was not compiled before is compiled, and that is told. -/
theorem output_ran_ne_empty (h : p.Opened) : (ran p).output ≠ "" := by
  obtain ⟨line, rest, hlines⟩ := List.exists_cons_of_ne_nil p.compileLines_ne_nil
  have hrun : p.runLines = line :: (rest ++ p.programLines ++ crashReport p.run.1) := by
    rw [Pipeline.runLines, h.held, hlines]
    rfl
  have hline : Console.Event.line line ∈ .cleared :: p.runLines.map .line := by
    rw [hrun]
    exact List.mem_cons_of_mem _ List.mem_cons_self
  rw [output_ran h]
  exact terminalText_ne_empty hline

end

namespace CommandLine

/-- **Options against settings.** For settings `c` that are accepted, let one command run a program
with limits as options, and another without them under the settings that have these limits written
into them. If no option is zero they do the same. Otherwise the second is refused before anything is
opened and prints nothing; and what the two print and how they end is the same only if there is
nothing to open, because the source cannot be read or there is no compiler. -/
theorem options_eq_settings (s : Surroundings) (input : String) {c : Config}
    (hc : c.validate = .ok ()) (path : String) (given : Limits) :
    let options := perform s input c (.run path given)
    let settings := perform s input (c.withLimits given) (.run path .unlimited)
    (given.Positive → options = settings) ∧
    (¬ given.Positive → (c.withLimits given).validate = .error (Config.zeroLimit given) ∧
      ∃ f, settings = .error f ∧ (readSource s.tree s.here path = .error f ∨
        f = .ofInit (.invalid (Config.zeroLimit given)))) ∧
    ((ended s options).output = (ended s settings).output ∧
        (ended s options).code = (ended s settings).code ↔
      given.Positive ∨ ∃ f, openPipeline s c path = .error f) := by
  intro options settings
  have hoptions : options = (openPipeline s c path).map fun p =>
      ran (p.setLimits (c.effectiveLimits (some given))) := runFile_eq s c path given
  have hsettings : settings = (openPipeline s (c.withLimits given) path).map fun p =>
      ran (p.setLimits (c.effectiveLimits (some given))) := by
    rw [← Config.effectiveLimits_withLimits]
    exact runFile_eq s (c.withLimits given) path .unlimited
  have hequal : given.Positive → options = settings := by
    intro hgiven
    rw [hoptions, hsettings, openPipeline_withLimits hc hgiven]
    cases openPipeline s c path <;> rfl
  have hrefused : ¬ given.Positive → ∃ f, settings = .error f ∧
      (readSource s.tree s.here path = .error f ∨
        f = .ofInit (.invalid (Config.zeroLimit given))) := by
    intro hgiven
    rw [hsettings, openPipeline_withLimits_of_zero hc hgiven]
    cases readSource s.tree s.here path with
    | error f => exact ⟨f, rfl, .inl rfl⟩
    | ok text => exact ⟨_, rfl, .inr rfl⟩
  refine ⟨hequal, fun hgiven => ⟨Config.validate_withLimits_of_zero hc hgiven, hrefused hgiven⟩, ?_⟩
  constructor
  · rintro ⟨houtput, -⟩
    by_contra hnot
    obtain ⟨hgiven, hopen⟩ := not_or.mp hnot
    obtain ⟨f, hf, -⟩ := hrefused hgiven
    cases hp : openPipeline s c path with
    | error f => exact hopen ⟨f, hp⟩
    | ok p =>
      -- the refused command prints nothing, the other one at least what became of the compile
      rw [hoptions, hp, hf] at houtput
      exact output_ran_ne_empty ((opened_of_openPipeline hp).setLimits _) houtput
  · rintro (hgiven | ⟨f, hf⟩)
    · rw [hequal hgiven]
      exact ⟨rfl, rfl⟩
    · by_cases hgiven : given.Positive
      · rw [hequal hgiven]
        exact ⟨rfl, rfl⟩
      · obtain ⟨g, hg, -⟩ := hrefused hgiven
        rw [hoptions, hf, hg]
        exact ⟨rfl, rfl⟩

/-! ## An option that no settings can stand for -/

/-- A program that asks for a memory and does nothing with it. -/
def silentProgram : List UInt8 :=
  [0, 97, 115, 109, 1, 0, 0, 0,
    -- imports: a memory of one page
    2, 15, 1, 3, 115, 121, 115, 6, 109, 101, 109, 111, 114, 121, 2, 0, 1]

theorem isName_artifact : IsName "main.wasm" := by decide

/-- A compiler that makes the silent program of every text. -/
def silentCompiler : Process := fun _ _ _ =>
  ⟨.exited 0, [], [], External.singleFile "main.wasm" isName_artifact silentProgram⟩

/-- A directory with a source and the compiler, and one for compiles. -/
def workshopTree : Tree :=
  ⟨[(["tmp"], .directory), (["w"], .directory), (["w", "main.hc"], .file [] false),
    (["w", "halcyonc"], .file [] true)]⟩

def workshop : Surroundings := ⟨workshopTree, [], .nothing, "/w", [], silentCompiler.launcher, 9⟩

theorem isOpen_workshop : workshopTree.IsOpen ["w"] := by
  refine ⟨?_, ?_, List.cons_ne_nil _ _, by decide +kernel⟩
  · intro name hname
    rw [List.mem_singleton.mp hname]
    decide
  · intro p hp
    rcases List.prefix_cons_iff.mp hp with rfl | ⟨rest, rfl, hrest⟩
    · rfl
    · rw [List.prefix_nil.mp hrest]
      rfl

theorem isName_source : IsName "main.hc" := by decide

theorem isName_compiler : IsName "halcyonc" := by decide

theorem readSource_workshop : readSource workshopTree [] "/w/main.hc" = .ok "" := by
  have hpath : "/w/main.hc" = Path.render (["w"] ++ ["main.hc"]) := by decide +kernel
  have hstat := isOpen_workshop.stat_content isName_source (e := .file [] false) rfl rfl []
  rw [readSource, hpath, Tree.read, hstat]
  rfl

/-- The compiler of the settings that hold without a file. -/
def workshopCompiler : External :=
  ⟨Config.default.compiler, "/w/halcyonc", silentCompiler.launcher, []⟩

theorem wellFormed_workshopTree : workshopTree.WellFormed := Tree.wellFormed_of_entries (by decide)

theorem compiler_workshop :
    workshop.compiler Config.default.compiler = .ok workshopCompiler := by
  have hpath : "/w/halcyonc" = Path.render (["w"] ++ ["halcyonc"]) := by decide +kernel
  have hjoin : Path.join "/w" "halcyonc" = "/w/halcyonc" := by decide +kernel
  have hfound : workshop.view.stat (Path.render (["w"] ++ ["halcyonc"])) =
      .ok (["w"] ++ ["halcyonc"], .file [] true) :=
    isOpen_workshop.stat_content isName_compiler rfl rfl []
  have hnamed : workshop.view.tree.Named := by decide
  have hprogram : programAt? workshop.view (Path.join "/w" "halcyonc") = some "/w/halcyonc" := by
    rw [hjoin, hpath]
    exact programAt?_render wellFormed_workshopTree hnamed hfound rfl
  have hsearch : searchPath "/w" = ["/w"] := by decide +kernel
  have hresolve : resolveCommand workshop.view "/w" Config.default.compiler.command =
      .ok "/w/halcyonc" := by
    simp [resolveCommand, Config.default, resolveProgram, hsearch, searchDirectories, hprogram]
  rw [Surroundings.compiler, External.prepare]
  exact congrArg (Except.map _) hresolve

theorem ready_workshop : workshopCompiler.Ready workshopTree :=
  External.ready_of_isName wellFormed_workshopTree rfl (by decide) isName_source

/-- The pipeline in which the source of the workshop is run without any line to print. -/
def workshopPipeline : Pipeline Tree :=
  ((Pipeline.withCompiler workshopCompiler.compiler workshopTree .default 9 "").setRenderer
    .steady).setLimits ⟨some 256, some 0⟩

theorem openPipeline_workshop : openPipeline workshop .default "/w/main.hc" =
    .ok ((Pipeline.withCompiler workshopCompiler.compiler workshopTree .default 9 "").setRenderer
      .steady) :=
  openPipeline_eq_ok_iff.mpr ⟨_, _, readSource_workshop, by decide, compiler_workshop, rfl⟩

theorem compile_workshop : workshopCompiler.compiler workshopTree "" =
    (.bytes silentProgram, workshopTree) := by
  have haccepted : Config.Accepted workshopCompiler.config :=
    Config.accepted_of_validateCompiler (by decide)
  have hleaves : workshopCompiler.Leaves workshopTree
      (workshopCompiler.outcome silentCompiler "") silentProgram :=
    .entry (e := .file silentProgram false) rfl rfl
  rw [External.compiler_eq rfl haccepted ready_workshop "",
    External.collect_of_leaves haccepted ready_workshop rfl hleaves]

theorem lookup_workshop : workshopPipeline.lookup.1 = .ok ⟨0, silentProgram⟩ := by
  have hcompile : workshopPipeline.gateway.compiler workshopPipeline.gateway.state
      workshopPipeline.text = (.bytes silentProgram, workshopTree) := compile_workshop
  rw [Pipeline.lookup_of_empty rfl, Gateway.compile, hcompile]
  rfl

theorem performed_workshop :
    workshopPipeline.runner workshopPipeline.sandbox silentProgram = ⟨[], .ok 0⟩ := by
  have hlines : (workshopPipeline.sandbox.perform silentProgram).lines = [] := by decide +kernel
  have hresult : (workshopPipeline.sandbox.perform silentProgram).result = .ok 0 := by
    decide +kernel
  calc workshopPipeline.runner workshopPipeline.sandbox silentProgram
      = ⟨(workshopPipeline.sandbox.perform silentProgram).lines,
          (workshopPipeline.sandbox.perform silentProgram).result⟩ := rfl
    _ = ⟨[], .ok 0⟩ := by rw [hlines, hresult]

theorem report_workshop : workshopPipeline.run.1 = .ok ⟨true, 0⟩ := by
  rw [Pipeline.run_of_ok lookup_workshop, performed_workshop]
  rfl

/-- **An option that no settings can stand for.** A program that prints nothing runs with no line to
print as an option, and the settings with the same limit are refused. -/
theorem zero_option_runs :
    let given : Limits := ⟨none, some 0⟩
    let options := ended workshop (perform workshop "" .default (.run "/w/main.hc" given))
    let settings := ended workshop
      (perform workshop "" (Config.default.withLimits given) (.run "/w/main.hc" .unlimited))
    Config.default.validate = .ok () ∧
      run workshop "" ["run", "/w/main.hc", "--max-output-lines", "0"] = options ∧
      options.code = 0 ∧ options.output = "Compiled Successfully\n" ∧
      settings.code = 1 ∧ settings.output = "" := by
  intro given options settings
  have hvalid : Config.default.validate = .ok () := by decide
  have hparse : Arguments.parse ["run", "/w/main.hc", "--max-output-lines", "0"] =
      some (.act none (.run "/w/main.hc" given)) := by decide +kernel
  have hopened : workshopPipeline.Opened :=
    (opened_of_openPipeline openPipeline_workshop).setLimits _
  have hoptions : options = ran workshopPipeline := by
    have hrun : perform workshop "" .default (.run "/w/main.hc" given) = _ :=
      runFile_eq workshop .default "/w/main.hc" given
    rw [openPipeline_workshop] at hrun
    exact congrArg (ended workshop) hrun
  have hsettings : settings =
      ended workshop (.error (.ofInit (.invalid (Config.zeroLimit given)))) := by
    have hrun : perform workshop "" (Config.default.withLimits given)
        (.run "/w/main.hc" .unlimited) = _ := runFile_eq workshop _ "/w/main.hc" .unlimited
    have hsource : readSource workshop.tree workshop.here "/w/main.hc" = .ok "" :=
      readSource_workshop
    rw [openPipeline_withLimits_of_zero hvalid (by decide), hsource] at hrun
    exact congrArg (ended workshop) hrun
  refine ⟨hvalid, run_of_act hparse rfl, ?_, ?_, by rw [hsettings]; rfl, by rw [hsettings]; rfl⟩
  · rw [hoptions, ran, finish, report_workshop]
    rfl
  · have hlines : workshopPipeline.runLines = [Pipeline.successLine] := by
      rw [Pipeline.runLines, Pipeline.programLines_of_ok lookup_workshop, report_workshop,
        Pipeline.compile_eq, lookup_workshop, performed_workshop]
      rfl
    rw [hoptions, output_ran hopened, hlines]
    rfl

/-- In the workshop there is something to open, so the zero makes a difference. -/
theorem options_eq_settings_workshop :
    Config.default.validate = .ok () ∧
    let options := perform workshop "" .default (.run "/w/main.hc" ⟨none, some 0⟩)
    let settings := perform workshop "" (Config.default.withLimits ⟨none, some 0⟩)
      (.run "/w/main.hc" .unlimited)
    ¬ ((ended workshop options).output = (ended workshop settings).output ∧
      (ended workshop options).code = (ended workshop settings).code) := by
  have hvalid : Config.default.validate = .ok () := by decide
  obtain ⟨-, -, hsame⟩ := options_eq_settings workshop "" hvalid "/w/main.hc" ⟨none, some 0⟩
  refine ⟨hvalid, fun h => ?_⟩
  rcases hsame.mp h with hpositive | ⟨f, hf⟩
  · exact absurd hpositive (by decide)
  · rw [openPipeline_workshop] at hf
    cases hf

end CommandLine

end Playground
