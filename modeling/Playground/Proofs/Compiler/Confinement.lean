import Playground.Compiler.External
import Playground.Proofs.Config.Names

/-!
# Where the files of a compile are

The source and the artifact of a compile are looked up by the path of the directory of the compile
with a name behind it. Validation keeps names from leading out of that directory. It does not keep
them from leading nowhere: the name of a single dot is that of the directory itself.

* `Confined` — two files that are different entries of one directory.
* `resolve_pathIn` — where the path of a file leads.
* `confined_iff` — with validated names the two files are confined, unless one is named by a dot.
* `dot_not_confined` — such a name is validated.
-/

set_option autoImplicit false

namespace Playground

namespace Compiler

namespace External

open Files Playground.Path

/-- Two places that are different entries of a directory, and neither further inside nor outside. -/
structure Confined (directory p q : Place) : Prop where
  first : ∃ name, p = directory ++ [name]
  second : ∃ name, q = directory ++ [name]
  distinct : p ≠ q

variable {name : String}

/-- **Where the path of a file leads**, its dots resolved: to the entry of that name, but the name
of a single dot to the directory itself. -/
theorem resolve_pathIn (here directory : Place) (hplain : Plain name) (hdots : name ≠ "..") :
    resolve here (pathIn directory name) =
      if name = "." then resolve here (render directory)
      else resolve here (render directory) ++ [name] := by
  rw [pathIn, resolve_join here hplain (render_ne_empty directory)]
  split
  · rename_i hdot
    rw [hdot, step_dot]
  · rename_i hdot
    exact step_of_ne _ hdot hdots

/-- A place is no entry of itself. -/
theorem ne_append_singleton (directory : Place) (name : String) :
    directory ≠ directory ++ [name] := by
  intro h
  have := congrArg List.length h
  rw [List.length_append, List.length_singleton] at this
  omega

/-- The places `p` and `q` of the source and the artifact in a directory. -/
structure Located (c : CompilerConfig) (directory p q : Place) : Prop where
  /-- The source is an entry of the directory, or the directory. -/
  source : p = if c.sourceName = "." then directory else directory ++ [c.sourceName]
  /-- So is the artifact. -/
  output : q = if c.outputName = "." then directory else directory ++ [c.outputName]
  /-- They are never the same. -/
  distinct : p ≠ q
  /-- Both are entries exactly if neither is named by a dot. -/
  confined : Confined directory p q ↔ c.sourceName ≠ "." ∧ c.outputName ≠ "."

variable {c : CompilerConfig} {directory p q : Place}

/-- Different names lead to different places, also if one of them is a dot. -/
theorem distinct_of_names
    (hsource : p = if c.sourceName = "." then directory else directory ++ [c.sourceName])
    (houtput : q = if c.outputName = "." then directory else directory ++ [c.outputName])
    (hnames : c.sourceName ≠ c.outputName) : p ≠ q := by
  subst hsource houtput
  by_cases hs : c.sourceName = "."
  · by_cases ho : c.outputName = "."
    · exact absurd (hs.trans ho.symm) hnames
    · rw [if_pos hs, if_neg ho]
      exact ne_append_singleton directory _
  · by_cases ho : c.outputName = "."
    · rw [if_neg hs, if_pos ho]
      exact (ne_append_singleton directory _).symm
    · rw [if_neg hs, if_neg ho]
      intro h
      exact hnames (List.cons.inj (List.append_cancel_left h)).1

/-- An entry of the directory is named, and a dot names none. -/
theorem isEntry_iff (directory : Place) (name : String) :
    (∃ entry, (if name = "." then directory else directory ++ [name]) = directory ++ [entry]) ↔
      name ≠ "." := by
  constructor
  · rintro ⟨entry, h⟩ hdot
    rw [if_pos hdot] at h
    exact ne_append_singleton directory entry h
  · intro hdot
    exact ⟨name, if_neg hdot⟩

/-- **The files of a compile are confined to its directory**, wherever that is, unless one of them
is named by a single dot: that one is the directory itself. -/
theorem confined_iff (h : Config.validateCompiler c = .ok ()) (here directory : Place) :
    Located c (resolve here (render directory)) (resolve here (pathIn directory c.sourceName))
      (resolve here (pathIn directory c.outputName)) := by
  have haccepted := Config.accepted_of_validateCompiler h
  have hsource := resolve_pathIn here directory haccepted.source.1 haccepted.source.2
  have houtput := resolve_pathIn here directory haccepted.output.1 haccepted.output.2
  have hdistinct := distinct_of_names hsource houtput haccepted.distinct
  refine ⟨hsource, houtput, hdistinct, ?_, ?_⟩
  · intro hconfined
    constructor
    · rw [← isEntry_iff, ← hsource]
      exact hconfined.first
    · rw [← isEntry_iff, ← houtput]
      exact hconfined.second
  · rintro ⟨hs, ho⟩
    refine ⟨?_, ?_, hdistinct⟩
    · rw [hsource, isEntry_iff]
      exact hs
    · rw [houtput, isEntry_iff]
      exact ho

/-- In a directory that is reached by dots. -/
theorem confined_iff_default :
    Config.validateCompiler Config.default.compiler = .ok () ∧
      Confined ["tmp", "c"] ["tmp", "c", "main.hc"] ["tmp", "c", "main.wasm"] := by
  have hvalid : Config.validateCompiler Config.default.compiler = .ok () := rfl
  have h := confined_iff hvalid [] ["tmp", "a", "..", ".", "c"]
  have hdirectory : resolve [] (render ["tmp", "a", "..", ".", "c"]) = ["tmp", "c"] := by
    decide +kernel
  rw [hdirectory] at h
  have hconfined := h.confined.mpr (by decide)
  rw [h.source, h.output] at hconfined
  exact ⟨hvalid, hconfined⟩

/-- A configuration in which a single dot is the name of the source. -/
def dotNamed : CompilerConfig := ⟨["halcyonc", "{source}", "-o", "{output}"], ".", "main.wasm", []⟩

/-- **A single dot is accepted as the name of the source**, and leads to the directory itself. -/
theorem dot_not_confined :
    Config.validateCompiler dotNamed = .ok () ∧
      resolve [] (pathIn ["tmp", "halcyon-0"] dotNamed.sourceName) = ["tmp", "halcyon-0"] ∧
      ¬ Confined ["tmp", "halcyon-0"] (resolve [] (pathIn ["tmp", "halcyon-0"] dotNamed.sourceName))
        (resolve [] (pathIn ["tmp", "halcyon-0"] dotNamed.outputName)) := by
  have hsource : resolve [] (pathIn ["tmp", "halcyon-0"] dotNamed.sourceName) =
      ["tmp", "halcyon-0"] := by decide +kernel
  refine ⟨rfl, hsource, fun hconfined => ?_⟩
  obtain ⟨name, hname⟩ := hconfined.first
  rw [hsource] at hname
  exact ne_append_singleton _ name hname

end External

end Compiler

end Playground
