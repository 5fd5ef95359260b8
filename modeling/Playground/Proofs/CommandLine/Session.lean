import Mathlib.Tactic.SplitIfs
import Playground.Proofs.CommandLine.Opened

/-!
# Sessions

A session reads lines until one of them ends it. Some of the lines ask for something to be done to
the pipeline, the others only for an answer in the errors. While the session goes on the files may
be changed from outside, the source file among them.

* `Happening` — a line, or a change of the files from outside; `runAmid` is a session among them,
  `run_eq_runAmid` the case without changes.
* `Deed`, `deeds` — what is to be done for happenings.
* `enact` — the deeds done to a pipeline, one after another, and what its renderer takes in.
* `goOn_eq_enact` — a session does the deeds to its pipeline and nothing else.
* `deeds_quiet` — lines that ask for nothing can be put anywhere.
* `enact_append`, `fault_enact_iff` — deeds are done one after another, and only a source file that
  cannot be read ends them early.
* `acts_in_order` — a whole session.
-/

set_option autoImplicit false

namespace Playground

open Files Text

/-- The pipeline after the files were changed from outside. -/
def Pipeline.withFiles (p : Pipeline Tree) (change : Tree → Tree) : Pipeline Tree :=
  { p with gateway := { p.gateway with state := change p.gateway.state } }

namespace Session

/-- What can happen in a session. -/
inductive Happening where
  | line (text : String)
  /-- The files are changed from outside. -/
  | outside (change : Tree → Tree)

variable {here : Place} {path : String}

/-! ## Sessions among changes -/

/-- Answers lines up to the end of the session while the files change. -/
def goOn (here : Place) (path : String) (t : Talk) : List Happening → Talk × Option ErrorReport
  | [] => (t, none)
  | .outside change :: rest =>
    goOn here path { t with pipeline := t.pipeline.withFiles change } rest
  | .line text :: rest =>
    match answer here path t text with
    | .error (t, f) => (t, some f)
    | .ok none => (t, none)
    | .ok (some t) => goOn here path t rest

/-- What a session leaves that came to an end. -/
def conclude (t : Talk) (fault : Option ErrorReport) : Finish where
  code := if fault.isSome then 1 else 0
  output := terminalText true t.pipeline.console.heard
  errors := t.errors ++ (fault.map ErrorReport.render).getD ""
  tree := t.pipeline.gateway.state

/-- A whole session while the files change. -/
def runAmid (s : Surroundings) (config : Config) (path : String) (hs : List Happening) :
    Except ErrorReport Finish :=
  (openPipeline s config path).map fun p =>
    let r := goOn s.here path ⟨p, helpText⟩ hs
    conclude r.1 r.2

section

variable {t u : Talk} {f : ErrorReport} {text : String} {rest : List Happening}

theorem goOn_of_error (h : answer here path t text = .error (u, f)) :
    goOn here path t (.line text :: rest) = (u, some f) := by
  simp only [goOn, h]

theorem goOn_of_end (h : answer here path t text = .ok none) :
    goOn here path t (.line text :: rest) = (t, none) := by
  simp only [goOn, h]

theorem goOn_of_answer (h : answer here path t text = .ok (some u)) :
    goOn here path t (.line text :: rest) = goOn here path u rest := by
  simp only [goOn, h]

end

theorem answerAll_eq_goOn (lines : List String) : ∀ t : Talk,
    answerAll here path t lines = goOn here path t (lines.map .line) := by
  induction lines with
  | nil => intro t; rfl
  | cons line rest ih =>
    intro t
    cases ha : answer here path t line with
    | error stop => simp only [answerAll, ha, List.map_cons, goOn_of_error ha]
    | ok reply =>
      cases reply with
      | none => simp only [answerAll, ha, List.map_cons, goOn_of_end ha]
      | some u => simp only [answerAll, ha, List.map_cons, goOn_of_answer ha, ih u]

/-- **A session whose files are left alone.** -/
theorem run_eq_runAmid (s : Surroundings) (config : Config) (path input : String) :
    run s config path input = runAmid s config path ((Lines.ofMessage input).map .line) := by
  rw [run, runAmid]
  cases openPipeline s config path with
  | error f => rfl
  | ok p =>
    dsimp only [bind, Except.bind, Except.map]
    rw [answerAll_eq_goOn]
    rfl

/-! ## What lines ask for -/

/-- What is to be done in a session. -/
inductive Deed where
  | compile
  | run
  | reload
  | outside (change : Tree → Tree)

/-- Whether a line ends the session. -/
def Happening.ends : Happening → Bool
  | .line text => Lines.trim text = "quit" || Lines.trim text = "exit"
  | .outside _ => false

/-- What is to be done for a happening, if anything is. -/
def Happening.deed? : Happening → Option Deed
  | .line text =>
    if Lines.trim text = "compile" then some .compile
    else if Lines.trim text = "run" then some .run
    else if Lines.trim text = "reload" then some .reload
    else none
  | .outside change => some (.outside change)

/-- What is to be done before the session ends. -/
def deeds (hs : List Happening) : List Deed := (hs.takeWhile (!·.ends)).filterMap Happening.deed?

/-- A line that asks for nothing to be done and does not end the session. -/
def Quiet (text : String) : Prop :=
  Lines.trim text ∉ ["compile", "run", "reload", "quit", "exit"]

theorem deeds_cons_of_ends {h : Happening} (hends : h.ends = true) (hs : List Happening) :
    deeds (h :: hs) = [] := by
  rw [deeds, List.takeWhile_cons, hends]
  rfl

theorem deeds_cons {h : Happening} (hends : h.ends = false) (hs : List Happening) :
    deeds (h :: hs) = h.deed?.toList ++ deeds hs := by
  rw [deeds, List.takeWhile_cons, hends, Bool.not_false, if_pos rfl, List.filterMap_cons]
  cases h.deed? <;> rfl

theorem quiet_iff {text : String} : Quiet text ↔
    (Happening.line text).ends = false ∧ (Happening.line text).deed? = none := by
  simp only [Quiet, Happening.ends, Happening.deed?, List.mem_cons, List.not_mem_nil, or_false,
    not_or, Bool.or_eq_false_iff, decide_eq_false_iff_not]
  constructor
  · rintro ⟨hcompile, hrun, hreload, hquit, hexit⟩
    exact ⟨⟨hquit, hexit⟩, by rw [if_neg hcompile, if_neg hrun, if_neg hreload]⟩
  · rintro ⟨⟨hquit, hexit⟩, hnone⟩
    split_ifs at hnone with hcompile hrun hreload
    exact ⟨hcompile, hrun, hreload, hquit, hexit⟩

/-- **Quiet lines can be put anywhere**, and left out anywhere. -/
theorem deeds_quiet {text : String} (h : Quiet text) (before behind : List Happening) :
    deeds (before ++ .line text :: behind) = deeds (before ++ behind) := by
  induction before with
  | nil =>
    obtain ⟨hends, hnone⟩ := quiet_iff.mp h
    rw [List.nil_append, List.nil_append, deeds_cons hends, hnone]
    rfl
  | cons first before ih =>
    rw [List.cons_append, List.cons_append]
    cases hends : first.ends with
    | true => rw [deeds_cons_of_ends hends, deeds_cons_of_ends hends]
    | false => rw [deeds_cons hends, deeds_cons hends, ih]

example : deeds [.line " run\t", .line "state", .line "", .line "run it", .line "reload",
    .line "exit", .line "compile"] = [.run, .reload] := rfl

/-! ## Answers -/

section

variable {t : Talk} {text : String}

theorem answer_of_ends (h : (Happening.line text).ends = true) :
    answer here path t text = .ok none := by
  rw [Happening.ends, Bool.or_eq_true, decide_eq_true_iff, decide_eq_true_iff] at h
  rcases h with h | h <;> simp [answer, h]

theorem Talk.pipeline_say (t : Talk) (text : String) : (t.say text).pipeline = t.pipeline := rfl

/-- A quiet line is answered in the errors at most. -/
theorem answer_quiet (here : Place) (path : String) (h : Quiet text) (t : Talk) :
    ∃ u : Talk, answer here path t text = .ok (some u) ∧ u.pipeline = t.pipeline := by
  simp only [Quiet, List.mem_cons, List.not_mem_nil, or_false, not_or] at h
  obtain ⟨hcompile, hrun, hreload, hquit, hexit⟩ := h
  unfold answer
  split
  case h_1 => exact ⟨_, rfl, rfl⟩
  case h_2 heq => exact absurd heq hcompile
  case h_3 heq => exact absurd heq hrun
  case h_4 heq => exact absurd heq hreload
  case h_5 => exact ⟨_, rfl, Talk.pipeline_say t _⟩
  case h_6 => exact ⟨_, rfl, Talk.pipeline_say t _⟩
  case h_7 heq => exact absurd heq hquit
  case h_8 heq => exact absurd heq hexit
  case h_9 => exact ⟨_, rfl, Talk.pipeline_say t _⟩

end

/-! ## Deeds -/

/-- A deed done to a pipeline, with what the renderer takes in meanwhile. A source file that cannot
be read is an error. -/
def Deed.act (here : Place) (path : String) (p : Pipeline Tree) :
    Deed → Except ErrorReport (List Console.Event × Pipeline Tree)
  | .compile => .ok ((p.turn .compile).events, p.act .compile)
  | .run => .ok ((p.turn .run).events, p.act .run)
  | .reload => (readSource p.gateway.state here path).map fun text =>
      ((p.turn (.edit text)).events, p.act (.edit text))
  | .outside change => .ok ([], p.withFiles change)

/-- What deeds come to. -/
structure Enacted where
  pipeline : Pipeline Tree
  /-- What the renderer took in. -/
  events : List Console.Event
  /-- Why the deeds ended early, if they did. -/
  fault : Option ErrorReport

/-- Deeds done to a pipeline, one after another, up to one that cannot be done. -/
def enact (here : Place) (path : String) (p : Pipeline Tree) : List Deed → Enacted
  | [] => ⟨p, [], none⟩
  | d :: ds =>
    match d.act here path p with
    | .error f => ⟨p, [], some f⟩
    | .ok (events, q) =>
      let e := enact here path q ds
      ⟨e.pipeline, events ++ e.events, e.fault⟩

section

variable {p q : Pipeline Tree} {d : Deed} {ds : List Deed} {events : List Console.Event}
  {f : ErrorReport}

theorem enact_of_error (h : d.act here path p = .error f) :
    enact here path p (d :: ds) = ⟨p, [], some f⟩ := by
  simp only [enact, h]

theorem enact_of_ok (h : d.act here path p = .ok (events, q)) :
    enact here path p (d :: ds) = ⟨(enact here path q ds).pipeline,
      events ++ (enact here path q ds).events, (enact here path q ds).fault⟩ := by
  simp only [enact, h]

/-- Only a source file that cannot be read keeps a deed from being done. -/
theorem act_eq_error_iff : d.act here path p = .error f ↔
    d = .reload ∧ readSource p.gateway.state here path = .error f := by
  cases d with
  | reload =>
    rw [Deed.act]
    cases readSource p.gateway.state here path with
    | error g => simp [Except.map]
    | ok text => simp [Except.map]
  | compile => exact ⟨nofun, fun h => nomatch h.1⟩
  | run => exact ⟨nofun, fun h => nomatch h.1⟩
  | outside change => exact ⟨nofun, fun h => nomatch h.1⟩

/-- A terminal is told the events of a deed, and stays. -/
theorem heard_of_act_ok (hp : p.console.Patient) (h : d.act here path p = .ok (events, q)) :
    q.console.Patient ∧ q.console.heard = p.console.heard ++ events := by
  have hcommand : ∀ c, (p.act c).console.Patient ∧
      (p.act c).console.heard = p.console.heard ++ (p.turn c).events := fun c =>
    ⟨Pipeline.patient_act hp c, by rw [Pipeline.events_turn hp, Pipeline.heard_act hp]⟩
  cases d with
  | compile => cases h; exact hcommand .compile
  | run => cases h; exact hcommand .run
  | reload =>
    rw [Deed.act] at h
    cases hread : readSource p.gateway.state here path with
    | error g => rw [hread] at h; cases h
    | ok text => rw [hread] at h; cases h; exact hcommand (.edit text)
  | outside change => cases h; exact ⟨hp, (List.append_nil _).symm⟩

end

/-- **What a terminal is told of deeds.** -/
theorem heard_enact (ds : List Deed) : ∀ {p : Pipeline Tree}, p.console.Patient →
    (enact here path p ds).pipeline.console.heard =
      p.console.heard ++ (enact here path p ds).events := by
  induction ds with
  | nil => intro p _; exact (List.append_nil _).symm
  | cons d ds ih =>
    intro p hp
    cases hact : d.act here path p with
    | error f =>
      rw [enact_of_error hact]
      exact (List.append_nil _).symm
    | ok done =>
      obtain ⟨hq, hheard⟩ := heard_of_act_ok hp hact
      rw [enact_of_ok hact, ih hq, hheard, List.append_assoc]

/-- Deeds are done one after another as long as they can be done. -/
theorem enact_append (before behind : List Deed) : ∀ {p : Pipeline Tree},
    (enact here path p before).fault = none →
      let e := enact here path p before
      let e' := enact here path e.pipeline behind
      enact here path p (before ++ behind) = ⟨e'.pipeline, e.events ++ e'.events, e'.fault⟩ := by
  induction before with
  | nil => intro p _; rfl
  | cons d before ih =>
    intro p h
    cases hact : d.act here path p with
    | error f => rw [enact_of_error hact] at h; cases h
    | ok done =>
      rw [enact_of_ok hact] at h
      have hrest := ih h
      rw [List.cons_append, enact_of_ok hact, enact_of_ok hact, hrest]
      simp only [List.append_assoc]

/-- Once some deeds are done the source file cannot be read. -/
structure Unreadable (here : Place) (path : String) (p : Pipeline Tree) (before : List Deed)
    (f : ErrorReport) : Prop where
  finished : (enact here path p before).fault = none
  unread : readSource (enact here path p before).pipeline.gateway.state here path = .error f

section

variable {p : Pipeline Tree} {before : List Deed} {f : ErrorReport}

/-- What comes before a source file that cannot be read is done, and what comes after it is not. -/
theorem Unreadable.enact_eq (h : Unreadable here path p before f) (behind : List Deed) :
    let e := enact here path p before
    enact here path p (before ++ .reload :: behind) = ⟨e.pipeline, e.events, some f⟩ := by
  intro e
  have hact : Deed.reload.act here path e.pipeline = .error f :=
    act_eq_error_iff.mpr ⟨rfl, h.unread⟩
  rw [enact_append before _ h.finished, enact_of_error hact, List.append_nil]

/-- **Only a source file that cannot be read ends the deeds early.** -/
theorem fault_enact_iff (p : Pipeline Tree) (ds : List Deed) (f : ErrorReport) :
    (enact here path p ds).fault = some f ↔ ∃ before behind,
      ds = before ++ .reload :: behind ∧ Unreadable here path p before f := by
  constructor
  · induction ds generalizing p with
    | nil => nofun
    | cons d ds ih =>
      intro h
      cases hact : d.act here path p with
      | error g =>
        rw [enact_of_error hact] at h
        cases h
        obtain ⟨rfl, hread⟩ := act_eq_error_iff.mp hact
        exact ⟨[], ds, rfl, rfl, hread⟩
      | ok done =>
        rw [enact_of_ok hact] at h
        obtain ⟨before, behind, rfl, hnone, hread⟩ := ih _ h
        refine ⟨d :: before, behind, rfl, ?_, ?_⟩
        · rw [enact_of_ok hact]
          exact hnone
        · rw [enact_of_ok hact]
          exact hread
  · rintro ⟨before, behind, rfl, hstop⟩
    rw [hstop.enact_eq]

end

/-! ## Sessions and deeds -/

/-- **One line.** The answer to a line does what the line asks for, or is the error that this comes
to. -/
theorem answer_deed (here : Place) (path : String) {text : String} {d : Deed}
    (hdeed : (Happening.line text).deed? = some d) (t : Talk) :
    (∀ f, d.act here path t.pipeline = .error f → answer here path t text = .error (t, f)) ∧
    ∀ done, d.act here path t.pipeline = .ok done →
      ∃ u : Talk, answer here path t text = .ok (some u) ∧ u.pipeline = done.2 := by
  rw [Happening.deed?] at hdeed
  split_ifs at hdeed with hcompile hrun hreload <;> cases hdeed
  · have hanswer : answer here path t text =
        .ok (some { t with pipeline := t.pipeline.act .compile }) := by
      simp only [answer, hcompile, Pipeline.act]
    exact ⟨nofun, fun _ h => ⟨_, hanswer, by cases h; rfl⟩⟩
  · have hanswer : answer here path t text =
        .ok (some { t with pipeline := t.pipeline.act .run }) := by
      simp only [answer, hrun, Pipeline.act]
    exact ⟨nofun, fun _ h => ⟨_, hanswer, by cases h; rfl⟩⟩
  · simp only [answer, hreload, Deed.act]
    cases readSource t.pipeline.gateway.state here path with
    | error g =>
      constructor
      · intro f h
        cases h
        rfl
      · intro done h
        cases h
    | ok source =>
      constructor
      · intro f h
        cases h
      · intro done h
        cases h
        exact ⟨_, rfl, rfl⟩

/-- **A session does its deeds** to the pipeline and nothing else. -/
theorem goOn_eq_enact (here : Place) (path : String) (hs : List Happening) : ∀ t : Talk,
    (goOn here path t hs).1.pipeline = (enact here path t.pipeline (deeds hs)).pipeline ∧
      (goOn here path t hs).2 = (enact here path t.pipeline (deeds hs)).fault := by
  induction hs with
  | nil => intro t; exact ⟨rfl, rfl⟩
  | cons first hs ih =>
    intro t
    cases first with
    | outside change =>
      have hact : (Deed.outside change).act here path t.pipeline =
        .ok ([], t.pipeline.withFiles change) := rfl
      have hdeeds : deeds (.outside change :: hs) = .outside change :: deeds hs := deeds_cons rfl hs
      rw [goOn, hdeeds, enact_of_ok hact]
      exact ih _
    | line text =>
      cases hends : (Happening.line text).ends with
      | true =>
        rw [goOn_of_end (answer_of_ends hends), deeds_cons_of_ends hends]
        exact ⟨rfl, rfl⟩
      | false =>
        rw [deeds_cons hends]
        cases hdeed : (Happening.line text).deed? with
        | none =>
          obtain ⟨u, hanswer, hsame⟩ := answer_quiet here path (quiet_iff.mpr ⟨hends, hdeed⟩) t
          rw [goOn_of_answer hanswer, ← hsame]
          exact ih u
        | some d =>
          obtain ⟨herror, hok⟩ := answer_deed here path hdeed t
          rw [Option.toList_some, List.singleton_append]
          cases hact : d.act here path t.pipeline with
          | error f =>
            rw [goOn_of_error (herror f hact), enact_of_error hact]
            exact ⟨rfl, rfl⟩
          | ok done =>
            obtain ⟨u, hanswer, hsame⟩ := hok done hact
            rw [goOn_of_answer hanswer, enact_of_ok hact, ← hsame]
            exact ih u

/-- **A whole session.** Its output is what the terminal is told of the deeds. -/
theorem runAmid_eq {s : Surroundings} {config : Config} {p : Pipeline Tree}
    (h : openPipeline s config path = .ok p) (hs : List Happening) :
    let e := enact s.here path p (deeds hs)
    ∃ said, runAmid s config path hs = .ok {
      code := if e.fault.isSome then 1 else 0
      output := terminalText true e.events
      errors := said ++ (e.fault.map ErrorReport.render).getD ""
      tree := e.pipeline.gateway.state } := by
  intro e
  have hopened := opened_of_openPipeline h
  obtain ⟨hpipeline, hfault⟩ := goOn_eq_enact s.here path hs ⟨p, helpText⟩
  have hheard : (goOn s.here path ⟨p, helpText⟩ hs).1.pipeline.console.heard = e.events := by
    rw [hpipeline, heard_enact _ hopened.patient, hopened.heard, List.nil_append]
  refine ⟨(goOn s.here path ⟨p, helpText⟩ hs).1.errors, ?_⟩
  rw [runAmid, h]
  dsimp only [Except.map]
  rw [conclude, hheard, hpipeline, hfault]

/-- What is seen of a session besides its errors. -/
def seen (r : Except ErrorReport Finish) : Except ErrorReport (Nat × String × Tree) :=
  r.map fun f => (f.code, f.output, f.tree)

theorem seen_runAmid_congr (s : Surroundings) (config : Config) (path : String)
    {hs hs' : List Happening} (h : deeds hs = deeds hs') :
    seen (runAmid s config path hs) = seen (runAmid s config path hs') := by
  cases hp : openPipeline s config path with
  | error f => rw [runAmid, runAmid, hp]; rfl
  | ok p =>
    obtain ⟨said, hrun⟩ := runAmid_eq hp hs
    obtain ⟨said', hrun'⟩ := runAmid_eq hp hs'
    rw [hrun, hrun', h]
    rfl

/-- **A session is the sequence of its deeds**, whatever happens to the files meanwhile.

* A session that cannot open a pipeline ends with the error.
* Another one does the deeds that its lines ask for, in order, up to the line that ends it, and
  prints what the terminal is told of them. It ends with an error if and only if the source file
  cannot be read when a line asks for it; what came before has then been done, and nothing else.
* A quiet line, put anywhere, changes neither what is seen of the session nor the pipeline at any
  later time.
* A session whose files are left alone is one of them. -/
theorem acts_in_order (s : Surroundings) (config : Config) (path : String) :
    (∀ f, openPipeline s config path = .error f → ∀ hs, runAmid s config path hs = .error f) ∧
    (∀ p, openPipeline s config path = .ok p → ∀ hs,
      let e := enact s.here path p (deeds hs)
      (∃ said, runAmid s config path hs = .ok {
        code := if e.fault.isSome then 1 else 0
        output := terminalText true e.events
        errors := said ++ (e.fault.map ErrorReport.render).getD ""
        tree := e.pipeline.gateway.state }) ∧
      (∀ t : Talk, t.pipeline = p →
        (goOn s.here path t hs).1.pipeline = e.pipeline ∧ (goOn s.here path t hs).2 = e.fault) ∧
      (∀ f, e.fault = some f ↔ ∃ before behind,
        deeds hs = before ++ .reload :: behind ∧ Unreadable s.here path p before f) ∧
      ∀ before behind f, deeds hs = before ++ .reload :: behind →
        Unreadable s.here path p before f →
          let e' := enact s.here path p before
          e = ⟨e'.pipeline, e'.events, some f⟩) ∧
    (∀ before text behind, Quiet text →
      seen (runAmid s config path (before ++ .line text :: behind)) =
        seen (runAmid s config path (before ++ behind)) ∧
      ∀ t, (goOn s.here path t (before ++ .line text :: behind)).1.pipeline =
        (goOn s.here path t (before ++ behind)).1.pipeline) ∧
    ∀ input, CommandLine.perform s input config (.session path) =
      runAmid s config path ((Lines.ofMessage input).map .line) := by
  refine ⟨?_, ?_, ?_, run_eq_runAmid s config path⟩
  · intro f h hs
    rw [runAmid, h]
    rfl
  · intro p h hs e
    refine ⟨runAmid_eq h hs, ?_, fault_enact_iff p (deeds hs), ?_⟩
    · rintro t rfl
      exact goOn_eq_enact s.here path hs t
    · intro before behind f hdeeds hstop
      have he : e = enact s.here path p (before ++ .reload :: behind) := congrArg _ hdeeds
      rw [he]
      exact hstop.enact_eq behind
  · intro before text behind hquiet
    have hdeeds := deeds_quiet hquiet before behind
    refine ⟨seen_runAmid_congr s config path hdeeds, fun t => ?_⟩
    rw [(goOn_eq_enact s.here path _ t).1, (goOn_eq_enact s.here path _ t).1, hdeeds]

end Session

end Playground
