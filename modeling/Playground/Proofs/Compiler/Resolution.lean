import Playground.Compiler.Resolve
import Playground.Proofs.Files.View
import Playground.Proofs.Text.Lines

/-!
# The first match on the search path

A name without a slash is looked for in the pieces of the search path, and the first piece that is
not empty and has an ordinary file of that name is the one that counts. A name with a slash has
nothing to do with the search path.

* `segments`, `Offers`, `First` — the pieces of a search path, and the first that has the file.
* `Called`, `programAt?_eq_some_iff` — a program is called by its canonical path, or by the path that
  it was looked for at if it is not told a canonical one.
* `findSome?_intercalate` — pieces that are joined to a search path are tried one after the other.
* `Resolution`, `resolveProgram_eq_iff` — what can come of a name, and when.
* `FirstMatch`, `first_match` — which changes of the search path do not matter.
* `called_by_another_path` — there need not be a canonical path.
-/

set_option autoImplicit false

namespace Playground

namespace Compiler

open Files Files.Tree Playground.Path

/-! ## What is asked for -/

/-- The pieces of a search path, empty ones among them. -/
def segments (path : String) : List String :=
  (Text.Lines.cut ':' path.toList).map String.ofList

/-- A directory is seen to have an ordinary file of a name, links followed. -/
def Offers (v : View) (name directory : String) : Prop :=
  ∃ place e, v.stat (join directory name) = .ok (place, e) ∧ e.isFile

/-- The first piece of a search path that is not empty and has an ordinary file of a name. -/
def First (v : View) (path name directory : String) : Prop :=
  ∃ before after, segments path = before ++ directory :: after ∧ directory ≠ "" ∧
    Offers v name directory ∧ ∀ d ∈ before, d ≠ "" → ¬ Offers v name d

/-- What the program at a path is called by: its canonical path, or that path itself if the
canonical one is not told. -/
inductive Called (v : View) (path : String) : String → Prop
  | canonical {place : Place} {e : Entry} (found : v.stat path = .ok (place, e)) (file : e.isFile)
      (told : v.Told path place e) : Called v path (render place)
  | asFound {place : Place} {e : Entry} {error : FileError}
      (found : v.stat path = .ok (place, e)) (file : e.isFile) (untold : v.Untold path error) :
      Called v path path

/-- What can come of looking for a program. -/
inductive Resolution (v : View) (path name : String) : Except ResolveError String → Prop
  | first {directory program : String} (plain : '/' ∉ name.toList)
      (first : First v path name directory) (called : Called v (join directory name) program) :
      Resolution v path name (.ok program)
  | nowhere (plain : '/' ∉ name.toList)
      (nowhere : ∀ d ∈ segments path, d ≠ "" → ¬ Offers v name d) :
      Resolution v path name (.error (.notFound name))
  | file {place : Place} {e : Entry} (slash : '/' ∈ name.toList)
      (found : v.stat name = .ok (place, e)) (file : e.isFile) (told : v.Told name place e) :
      Resolution v path name (.ok (render place))
  | unnameable {place : Place} {e : Entry} {error : FileError} (slash : '/' ∈ name.toList)
      (found : v.stat name = .ok (place, e)) (file : e.isFile) (untold : v.Untold name error) :
      Resolution v path name (.error (.unnameable error))
  | notAFile {place : Place} {e : Entry} (slash : '/' ∈ name.toList)
      (found : v.stat name = .ok (place, e)) (file : ¬ e.isFile) :
      Resolution v path name (.error (.notAFile name))
  | missing {error : FileError} (slash : '/' ∈ name.toList) (found : v.stat name = .error error) :
      Resolution v path name (.error (.notFound name))

variable {v : View} {place : Place} {path name program : String} {e : Entry}

/-! ## One path -/

theorem programAt?_eq_some_iff (hwell : v.tree.WellFormed) (hnamed : v.tree.Named) :
    programAt? v path = some program ↔ Called v path program := by
  constructor
  · intro h
    unfold programAt? at h
    split at h
    · rename_i place e hfound
      split at h
      · rename_i hfile
        cases h
        rcases View.canonicalize_cases hwell hnamed hfound hfile with
          ⟨htold, hok⟩ | ⟨error, huntold, herror⟩
        · rw [canonicalOr, hok]
          exact .canonical hfound hfile htold
        · rw [canonicalOr, herror]
          exact .asFound hfound hfile huntold
      · cases h
    · cases h
  · intro h
    cases h with
    | canonical hfound hfile htold =>
      have hok := (View.canonicalize_eq_ok_iff hwell hnamed hfound hfile _).mpr ⟨rfl, htold⟩
      simp only [programAt?, hfound, hfile, if_true, canonicalOr, hok]
    | asFound hfound hfile huntold =>
      have herror := (View.canonicalize_eq_error_iff hwell hnamed hfound hfile _).mpr huntold
      simp only [programAt?, hfound, hfile, if_true, canonicalOr, herror]

theorem programAt?_eq_none_iff (directory : String) :
    programAt? v (join directory name) = none ↔ ¬ Offers v name directory := by
  unfold programAt? Offers
  cases v.stat (join directory name) with
  | error e => simp
  | ok found =>
    obtain ⟨place, e⟩ := found
    cases hfile : e.isFile <;> simp [hfile]

/-- A program that is found at the path of its place is called by that path. -/
theorem programAt?_render (hwell : v.tree.WellFormed) (hnamed : v.tree.Named)
    (hfound : v.stat (render place) = .ok (place, e)) (hfile : e.isFile) :
    programAt? v (render place) = some (render place) := by
  rw [programAt?_eq_some_iff hwell hnamed]
  rcases View.canonicalize_cases hwell hnamed hfound hfile with ⟨htold, -⟩ | ⟨error, huntold, -⟩
  · exact .canonical hfound hfile htold
  · exact .asFound hfound hfile huntold

/-! ## The search path -/

/-- What a piece of a search path gives; an empty one gives nothing. -/
def tried (v : View) (name directory : String) : Option String :=
  if directory = "" then none else programAt? v (join directory name)

theorem tried_eq_none_iff (directory : String) :
    tried v name directory = none ↔ (directory ≠ "" → ¬ Offers v name directory) := by
  unfold tried
  split
  · simp [*]
  · rw [programAt?_eq_none_iff]
    simp [*]

theorem tried_eq_some_iff (hwell : v.tree.WellFormed) (hnamed : v.tree.Named)
    (directory : String) :
    tried v name directory = some program ↔
      directory ≠ "" ∧ Called v (join directory name) program := by
  unfold tried
  split
  · simp [*]
  · rw [programAt?_eq_some_iff hwell hnamed]
    simp [*]

theorem Called.offers {directory : String} (h : Called v (join directory name) program) :
    Offers v name directory := by
  cases h with
  | canonical hfound hfile => exact ⟨_, _, hfound, hfile⟩
  | asFound hfound hfile => exact ⟨_, _, hfound, hfile⟩

/-- Leaving out the empty pieces is the same as finding nothing in them. -/
theorem findSome?_searchPath (path : String) :
    ((searchPath path).findSome? fun directory => programAt? v (join directory name)) =
      (segments path).findSome? (tried v name) := by
  rw [searchPath, segments]
  induction Text.Lines.cut ':' path.toList with
  | nil => rfl
  | cons piece others ih =>
    cases piece with
    | nil =>
      rw [List.filter_cons_of_neg (by simp), List.map_cons, List.findSome?_cons, ih]
      rfl
    | cons c cs =>
      have hne : String.ofList (c :: cs) ≠ "" := by
        rw [ne_eq, ← String.toList_eq_nil_iff, String.toList_ofList]
        exact List.cons_ne_nil c cs
      rw [List.filter_cons_of_pos (by simp), List.map_cons, List.map_cons, List.findSome?_cons,
        List.findSome?_cons, ih, tried, if_neg hne]

/-- A name without a slash is looked for piece by piece. -/
theorem resolveProgram_plain (h : '/' ∉ name.toList) (path : String) :
    resolveProgram v path name =
      match (segments path).findSome? (tried v name) with
      | some program => .ok program
      | none => .error (.notFound name) := by
  cases hsearch : (segments path).findSome? (tried v name) with
  | none =>
    rw [resolveProgram, if_neg (by simpa using h), searchDirectories, findSome?_searchPath, hsearch]
  | some program =>
    rw [resolveProgram, if_neg (by simpa using h), searchDirectories, findSome?_searchPath, hsearch]

theorem resolveProgram_slash (h : '/' ∈ name.toList) (path : String) :
    resolveProgram v path name = resolvePath v name := by
  rw [resolveProgram, if_pos (by simpa using h)]

/-- **What comes of a name**, for every search path. -/
theorem resolveProgram_eq_iff (hwell : v.tree.WellFormed) (hnamed : v.tree.Named)
    (result : Except ResolveError String) :
    resolveProgram v path name = result ↔ Resolution v path name result := by
  constructor
  · rintro rfl
    by_cases hname : '/' ∈ name.toList
    · rw [resolveProgram_slash hname, resolvePath]
      cases hfound : v.stat name with
      | error error => exact .missing hname hfound
      | ok found =>
        obtain ⟨place, e⟩ := found
        by_cases hfile : e.isFile
        · rcases View.canonicalize_cases hwell hnamed hfound hfile with
            ⟨htold, hok⟩ | ⟨error, huntold, herror⟩
          · simp only [hfile, if_true, hok]
            exact .file hname hfound hfile htold
          · simp only [hfile, if_true, herror]
            exact .unnameable hname hfound hfile huntold
        · simp only [hfile, Bool.false_eq_true, if_false]
          exact .notAFile hname hfound hfile
    · rw [resolveProgram_plain hname]
      cases hsearch : (segments path).findSome? (tried v name) with
      | none =>
        refine .nowhere hname fun d hd => ?_
        exact (tried_eq_none_iff d).mp (List.findSome?_eq_none_iff.mp hsearch d hd)
      | some program =>
        obtain ⟨before, directory, after, hsegments, htried, hbefore⟩ :=
          List.findSome?_eq_some_iff.mp hsearch
        obtain ⟨hne, hcalled⟩ := (tried_eq_some_iff hwell hnamed directory).mp htried
        have hmiss := fun d hd => (tried_eq_none_iff d).mp (hbefore d hd)
        exact .first hname ⟨before, after, hsegments, hne, hcalled.offers, hmiss⟩ hcalled
  · intro h
    cases h with
    | first hname hfirst hcalled =>
      obtain ⟨before, after, hsegments, hne, -, hmiss⟩ := hfirst
      have htried := (tried_eq_some_iff hwell hnamed _).mpr ⟨hne, hcalled⟩
      have hbefore := fun d hd => (tried_eq_none_iff d).mpr (hmiss d hd)
      have hsearch := List.findSome?_eq_some_iff.mpr
        ⟨before, _, after, hsegments, htried, hbefore⟩
      rw [resolveProgram_plain hname, hsearch]
    | nowhere hname hnowhere =>
      have hsearch : (segments path).findSome? (tried v name) = none :=
        List.findSome?_eq_none_iff.mpr fun d hd => (tried_eq_none_iff d).mpr (hnowhere d hd)
      rw [resolveProgram_plain hname, hsearch]
    | file hname hfound hfile htold =>
      have hok := (View.canonicalize_eq_ok_iff hwell hnamed hfound hfile _).mpr ⟨rfl, htold⟩
      rw [resolveProgram_slash hname, resolvePath, hfound]
      simp only [hfile, if_true, hok]
    | unnameable hname hfound hfile huntold =>
      have herror := (View.canonicalize_eq_error_iff hwell hnamed hfound hfile _).mpr huntold
      rw [resolveProgram_slash hname, resolvePath, hfound]
      simp only [hfile, if_true, herror]
    | notAFile hname hfound hfile =>
      rw [resolveProgram_slash hname, resolvePath, hfound]
      simp only [hfile, Bool.false_eq_true, if_false]
    | missing hname hfound => rw [resolveProgram_slash hname, resolvePath, hfound]

/-! ## Changes of the search path -/

theorem segments_of_not_mem {piece : String} (h : ':' ∉ piece.toList) : segments piece = [piece] := by
  rw [segments, Text.Lines.cut_of_not_mem h, List.map_singleton, String.ofList_toList]

/-- Pieces that are joined to a search path are tried one after the other. -/
theorem findSome?_intercalate (pieces : List String) :
    (segments (":".intercalate pieces)).findSome? (tried v name) =
      (pieces.flatMap segments).findSome? (tried v name) := by
  by_cases hne : pieces = []
  · rw [hne]
    rfl
  · have hsep : ":".toList = [':'] := rfl
    have hcut : Text.Lines.cut ':' ([':'].intercalate (pieces.map String.toList)) =
        (pieces.map String.toList).flatMap (Text.Lines.cut ':') :=
      Text.Lines.cut_intercalate_parts (by simpa using hne)
    rw [segments, String.toList_intercalate, hsep, hcut, List.map_flatMap, List.flatMap_map]
    rfl

/-- Two search paths whose pieces give the same. -/
theorem resolveProgram_congr {pieces others : List String}
    (h : (pieces.flatMap segments).findSome? (tried v name) =
      (others.flatMap segments).findSome? (tried v name)) :
    resolveProgram v (":".intercalate pieces) name =
      resolveProgram v (":".intercalate others) name := by
  by_cases hname : '/' ∈ name.toList
  · rw [resolveProgram_slash hname, resolveProgram_slash hname]
  · rw [resolveProgram_plain hname, resolveProgram_plain hname, findSome?_intercalate,
      findSome?_intercalate, h]

/-- Pieces are tried up to the first that gives something. -/
theorem findSome?_around {piece : String} (hpiece : ':' ∉ piece.toList)
    (before after : List String) :
    ((before ++ piece :: after).flatMap segments).findSome? (tried v name) =
      ((before.flatMap segments).findSome? (tried v name)).or
        ((tried v name piece).or
          ((after.flatMap segments).findSome? (tried v name))) := by
  rw [List.flatMap_append, List.flatMap_cons, segments_of_not_mem hpiece, List.singleton_append,
    List.findSome?_append, List.findSome?_cons]
  cases tried v name piece <;> rfl

/-- A piece that gives nothing can be left out. -/
theorem resolveProgram_skip {piece : String} (hpiece : ':' ∉ piece.toList)
    (h : tried v name piece = none) (before after : List String) :
    resolveProgram v (":".intercalate (before ++ piece :: after)) name =
      resolveProgram v (":".intercalate (before ++ after)) name := by
  refine resolveProgram_congr ?_
  rw [findSome?_around hpiece, h, Option.none_or, List.flatMap_append, List.findSome?_append]

/-- Behind a piece that gives something no piece is tried. -/
theorem resolveProgram_stop {piece : String} (hpiece : ':' ∉ piece.toList)
    (h : tried v name piece ≠ none) (before after others : List String) :
    resolveProgram v (":".intercalate (before ++ piece :: after)) name =
      resolveProgram v (":".intercalate (before ++ piece :: others)) name := by
  obtain ⟨program, hprogram⟩ := Option.ne_none_iff_exists'.mp h
  refine resolveProgram_congr ?_
  rw [findSome?_around hpiece, findSome?_around hpiece, hprogram, Option.some_or, Option.some_or]

/-- What a name has to do with the search path. -/
structure FirstMatch (v : View) (name : String) : Prop where
  /-- Each result comes in its own case, and in no other. -/
  result_iff : ∀ path result,
    resolveProgram v path name = result ↔ Resolution v path name result
  /-- Empty pieces do not matter. -/
  empty : ∀ before after, resolveProgram v (":".intercalate (before ++ "" :: after)) name =
    resolveProgram v (":".intercalate (before ++ after)) name
  /-- Pieces that have no file of the name do not matter. -/
  missed : ∀ before piece after, ':' ∉ piece.toList → ¬ Offers v name piece →
    resolveProgram v (":".intercalate (before ++ piece :: after)) name =
      resolveProgram v (":".intercalate (before ++ after)) name
  /-- What stands behind a piece that has one does not matter. -/
  behind : ∀ before piece after others, ':' ∉ piece.toList → piece ≠ "" →
    Offers v name piece →
      resolveProgram v (":".intercalate (before ++ piece :: after)) name =
        resolveProgram v (":".intercalate (before ++ piece :: others)) name
  /-- A name with a slash has nothing to do with the search path. -/
  slash : '/' ∈ name.toList → ∀ path other,
    resolveProgram v path name = resolveProgram v other name

/-- **The first match on the search path is taken**, in every tree and whatever is refused. -/
theorem first_match (v : View) (name : String) (hwell : v.tree.WellFormed)
    (hnamed : v.tree.Named) : FirstMatch v name where
  result_iff path result := resolveProgram_eq_iff hwell hnamed result
  empty before after := by
    have hnone : tried v name "" = none := if_pos rfl
    exact resolveProgram_skip (by decide) hnone before after
  missed before piece after hpiece hmiss :=
    resolveProgram_skip hpiece ((tried_eq_none_iff piece).mpr fun _ => hmiss) before after
  behind before piece after others hpiece hne hoffers := by
    have hsome : tried v name piece ≠ none := fun hnone =>
      (tried_eq_none_iff piece).mp hnone hne hoffers
    exact resolveProgram_stop hpiece hsome before after others
  slash hname path other := by
    rw [resolveProgram_slash hname, resolveProgram_slash hname]

/-- A tree in which two directories have a name, but only a third has a file of it. -/
def shelfTree : Tree :=
  ⟨[(["bin"], .directory), (["bin", "cc"], .file [] true), (["lib"], .directory),
    (["lib", "cc"], .directory), (["old"], .directory), (["old", "cc"], .link "gone")]⟩

theorem wellFormed_shelfTree : shelfTree.WellFormed := wellFormed_of_entries (by decide)

theorem named_shelfTree : shelfTree.Named := by decide

/-- The tree as it is seen from one of its directories by a process that is not allowed to search
all directories above it: no canonical path is told. -/
def shelfView : View := ⟨shelfTree, ["bin"], ⟨fun _ => none, fun _ => some .denied⟩⟩

theorem first_match_shelfView :
    shelfView.tree.WellFormed ∧ shelfView.tree.Named ∧ FirstMatch shelfView "cc" :=
  ⟨wellFormed_shelfTree, named_shelfTree,
    first_match shelfView "cc" wellFormed_shelfTree named_shelfTree⟩

/-! ## A file without a canonical path -/

/-- Directories with one name, one in the other down to some depth, with a program in the deepest.
A link at the root leads past the first four. -/
def wellTree (name : String) (depth : Nat) : Tree :=
  ⟨(["s"], .link (render (List.replicate 4 name))) ::
    (List.replicate depth name ++ ["cc"], .file [] true) ::
    (List.range depth).map fun n => (List.replicate (n + 1) name, .directory)⟩

section WellTree

variable {depth n : Nat}

theorem find?_wellTree (hname : name ≠ "s") (hn : n ≤ depth) :
    (wellTree name depth).find? (List.replicate n name) = some .directory := by
  cases n with
  | zero => rfl
  | succ n =>
    have hne : List.replicate (n + 1) name ≠ [] := List.cons_ne_nil _ _
    have hmem : (List.replicate (n + 1) name, Entry.directory) ∈ (wellTree name depth).entries :=
      List.mem_cons_of_mem _ (List.mem_cons_of_mem _
        (List.mem_map.mpr ⟨n, List.mem_range.mpr hn, rfl⟩))
    rw [find?_of_ne_nil hne]
    cases hlookup : (wellTree name depth).entries.lookup (List.replicate (n + 1) name) with
    | none =>
      have hother := List.lookup_eq_none_iff.mp hlookup _ hmem
      simp at hother
    | some e =>
      obtain ⟨before, after, hentries, -⟩ := List.lookup_eq_some_iff.mp hlookup
      have hentry : (List.replicate (n + 1) name, e) ∈ (wellTree name depth).entries := by
        rw [hentries]
        simp
      rcases List.mem_cons.mp hentry with heq | hentry
      · have hs : List.replicate (n + 1) name = ["s"] := congrArg Prod.fst heq
        exact absurd (List.cons.inj hs).1 hname
      rcases List.mem_cons.mp hentry with heq | hentry
      · have hlength := congrArg (List.length ·.1) heq
        simp at hlength
        omega
      · obtain ⟨m, -, heq⟩ := List.mem_map.mp hentry
        have hdirectory : Entry.directory = e := congrArg Prod.snd heq
        rw [hdirectory]

theorem find?_wellTree_program (name : String) (depth : Nat) :
    (wellTree name depth).find? (List.replicate depth name ++ ["cc"]) = some (.file [] true) := by
  have hlast : ["s"].getLast? ≠ (List.replicate depth name ++ ["cc"]).getLast? := by
    rw [List.getLast?_concat]
    decide
  have hne : List.replicate depth name ++ ["cc"] ≠ ["s"] := fun h => hlast (h ▸ rfl)
  rw [find?_append_singleton, wellTree, List.lookup_cons, beq_false_of_ne hne,
    List.lookup_cons_self]

theorem wellFormed_wellTree (hname : name ≠ "s") : (wellTree name depth).WellFormed := by
  refine wellFormed_of_entries fun p hp => ?_
  rcases List.mem_cons.mp hp with rfl | hp
  · rfl
  rcases List.mem_cons.mp hp with rfl | hp
  · rw [List.dropLast_concat]
    exact find?_wellTree hname (Nat.le_refl depth)
  · obtain ⟨n, hn, rfl⟩ := List.mem_map.mp hp
    rw [List.dropLast_replicate, Nat.add_sub_cancel]
    exact find?_wellTree hname (Nat.le_of_lt (List.mem_range.mp hn))

theorem named_wellTree (hname : IsName name) : (wellTree name depth).Named := by
  intro p hp n hn
  rcases List.mem_cons.mp hp with rfl | hp
  · rw [List.mem_singleton.mp hn]
    decide
  rcases List.mem_cons.mp hp with rfl | hp
  · rcases List.mem_append.mp hn with hn | hn
    · rw [(List.mem_replicate.mp hn).2]
      exact hname
    · rw [List.mem_singleton.mp hn]
      decide
  · obtain ⟨m, -, rfl⟩ := List.mem_map.mp hp
    rw [(List.mem_replicate.mp hn).2]
    exact hname

/-- The link leads past the first four directories. -/
theorem walk_wellTree (hname : IsName name) (hs : name ≠ "s") (k : Nat) :
    (wellTree name (4 + k)).walk true linkLimit [] ("s" :: (List.replicate k name ++ ["cc"])) =
      .ok (.found (List.replicate (4 + k) name ++ ["cc"]) (.file [] true)) := by
  have hfind : (wellTree name (4 + k)).find? ([] ++ ["s"]) =
      some (.link (render (List.replicate 4 name))) := rfl
  have hplain : ∀ n ∈ List.replicate 3 name ++ [name], Plain n := by
    rw [← List.replicate_succ']
    exact fun n hn => (List.mem_replicate.mp hn).2 ▸ hname.plain
  have htarget : strictComponents (render (List.replicate 4 name)) = List.replicate 4 name := by
    rw [List.replicate_succ']
    exact strictComponents_render hplain
  have hlinks : linkLimit = 39 + 1 := rfl
  have hnames : ∀ n ∈ List.replicate (4 + k) name, IsName n := fun n hn =>
    (List.mem_replicate.mp hn).2 ▸ hname
  have hopen : ∀ p, p <+: List.replicate (4 + k) name →
      (wellTree name (4 + k)).find? ([] ++ p) = some .directory := by
    intro p hp
    obtain ⟨hlength, hp⟩ := List.prefix_replicate_iff.mp hp
    rw [List.nil_append, hp]
    exact find?_wellTree hs hlength
  rw [walk_isName (by decide), hfind, hlinks, goOn_link, ite_self, htarget, ← List.append_assoc,
    List.replicate_append_replicate, walk_open _ hnames hopen, List.nil_append,
    walk_content (by decide) (find?_wellTree_program name (4 + k)) rfl]

/-- The way through the link down to the program. -/
def linkedPlace (name : String) (k : Nat) : Place := "s" :: List.replicate k name

theorem isName_linkedPlace (hname : IsName name) {k : Nat} : ∀ n ∈ linkedPlace name k, IsName n := by
  intro n hn
  rcases List.mem_cons.mp hn with rfl | hn
  · decide
  · exact (List.mem_replicate.mp hn).2 ▸ hname

theorem join_linkedPlace (hname : IsName name) (k : Nat) :
    join (render (linkedPlace name k)) "cc" = render (linkedPlace name k ++ ["cc"]) :=
  join_render (fun n hn => (isName_linkedPlace hname n hn).plain) (by decide)

theorem utf8ByteSize_linkedPlace (name : String) (k : Nat) :
    (render (linkedPlace name k ++ ["cc"])).utf8ByteSize = 5 + k * (1 + name.utf8ByteSize) := by
  have hs : (render ["s"]).utf8ByteSize = 2 := by decide +kernel
  have hcc : "cc".utf8ByteSize = 2 := rfl
  have hrest := utf8ByteSize_render_replicate (List.cons_ne_nil "s" []) k name
  rw [linkedPlace, utf8ByteSize_render_append (List.cons_ne_nil _ _), ← List.singleton_append, hrest,
    hs, hcc]
  omega

theorem utf8ByteSize_program (name : String) (hdepth : depth ≠ 0) :
    (render (List.replicate depth name ++ ["cc"])).utf8ByteSize =
      depth * (1 + name.utf8ByteSize) + 3 := by
  obtain ⟨n, rfl⟩ := Nat.exists_eq_succ_of_ne_zero hdepth
  have hfirst : (render [name]).utf8ByteSize = 1 + name.utf8ByteSize := by
    rw [render_singleton, String.utf8ByteSize_append]
    rfl
  have hcc : "cc".utf8ByteSize = 2 := rfl
  have hrest := utf8ByteSize_render_replicate (List.cons_ne_nil name []) n name
  rw [List.replicate_succ, utf8ByteSize_render_append (List.cons_ne_nil _ _),
    ← List.singleton_append, hrest, hfirst, hcc, Nat.succ_mul]
  omega

/-- The program is found through the link. -/
theorem stat_wellTree (hname : IsName name) (hs : name ≠ "s") (k : Nat)
    (hshort : 5 + k * (1 + name.utf8ByteSize) < pathBound) :
    (wellTree name (4 + k)).stat [] (render (linkedPlace name k ++ ["cc"])) =
      .ok (List.replicate (4 + k) name ++ ["cc"], .file [] true) := by
  have hnames : ∀ n ∈ linkedPlace name k ++ ["cc"], IsName n := by
    intro n hn
    rcases List.mem_append.mp hn with hn | hn
    · exact isName_linkedPlace hname n hn
    · rw [List.mem_singleton.mp hn]
      decide
  have hlong : ¬ pathBound ≤ (render (linkedPlace name k ++ ["cc"])).utf8ByteSize := by
    rw [utf8ByteSize_linkedPlace]
    exact Nat.not_le.mpr hshort
  rw [stat, locate_eq (fun n hn => (hnames n hn).plain), if_neg (nul_not_mem_render hnames),
    if_neg hlong, linkedPlace, List.cons_append, walk_wellTree hname hs k]
  rfl

/-- The place of the program is too deep to have a canonical path. -/
theorem canonicalize_wellTree (hname : IsName name) (hs : name ≠ "s") (k : Nat)
    (hshort : 5 + k * (1 + name.utf8ByteSize) < pathBound)
    (hdeep : pathBound ≤ (4 + k) * (1 + name.utf8ByteSize) + 3) :
    (wellTree name (4 + k)).canonicalize [] (render (linkedPlace name k ++ ["cc"])) =
      .error .nameTooLong := by
  rcases canonicalize_cases (stat_wellTree hname hs k hshort) Entry.noConfusion with
    ⟨-, hshallow, -⟩ | ⟨-, herror⟩
  · have hsize := of_decide_eq_true hshallow
    rw [utf8ByteSize_program name (by omega)] at hsize
    exact absurd hsize (Nat.not_lt.mpr hdeep)
  · exact herror

end WellTree

/-- A name of one letter over and over. -/
def stretched (n : Nat) : String := String.ofList (List.replicate n 'd')

theorem toList_stretched (n : Nat) : (stretched n).toList = List.replicate n 'd' :=
  String.toList_ofList

theorem not_mem_stretched {c : Char} (hc : c ≠ 'd') (n : Nat) : c ∉ (stretched n).toList := by
  rw [toList_stretched, List.mem_replicate]
  exact fun h => hc h.2

theorem stretched_ne {text : String} (h : text.toList.head? ≠ some 'd') (n : Nat) :
    stretched (n + 1) ≠ text := by
  rintro rfl
  rw [toList_stretched] at h
  exact h rfl

/-- A name that is nearly as long as names can be. -/
def longName : String := stretched 250

theorem utf8ByteSize_longName : longName.utf8ByteSize = 250 := by decide +kernel

theorem isName_longName : IsName longName where
  plain := ⟨stretched_ne (by decide) 249, not_mem_stretched (by decide) 250⟩
  not_dot := stretched_ne (by decide) 249
  not_dots := stretched_ne (by decide) 249
  no_nul := not_mem_stretched (by decide) 250
  short := by
    rw [utf8ByteSize_longName]
    decide

theorem colon_not_mem_linkedPlace (k : Nat) : ':' ∉ (render (linkedPlace longName k)).toList := by
  rw [linkedPlace, mem_toList_render (List.cons_ne_nil _ _)]
  rintro ⟨n, hn, hc | hc⟩
  · cases hc
  · rcases List.mem_cons.mp hn with rfl | hn
    · exact absurd hc (by decide)
    · rw [(List.mem_replicate.mp hn).2] at hc
      exact not_mem_stretched (by decide) 250 hc

/-- **There need not be a canonical path.** The only piece of the search path has an ordinary file of
the name, but the path from the root to that file is longer than paths can be. So the program is
called by another path, and with that path for a name there is an error. -/
theorem called_by_another_path :
    let v : View := ⟨wellTree longName 17, [], .nothing⟩
    let place := List.replicate 17 longName ++ ["cc"]
    let directory := render (linkedPlace longName 13)
    v.tree.WellFormed ∧ v.tree.Named ∧ First v directory "cc" directory ∧
      v.stat (join directory "cc") = .ok (place, .file [] true) ∧
      (∃ program, resolveProgram v directory "cc" = .ok program ∧ program ≠ render place) ∧
      resolveProgram v directory (join directory "cc") = .error (.unnameable .nameTooLong) := by
  intro v place directory
  have hs : longName ≠ "s" := stretched_ne (by decide) 249
  have hshort : 5 + 13 * (1 + longName.utf8ByteSize) < pathBound := by
    rw [utf8ByteSize_longName]
    decide
  have hdeep : pathBound ≤ (4 + 13) * (1 + longName.utf8ByteSize) + 3 := by
    rw [utf8ByteSize_longName]
    decide
  have hjoin : join directory "cc" = render (linkedPlace longName 13 ++ ["cc"]) :=
    join_linkedPlace isName_longName 13
  have hsegments : segments directory = [directory] :=
    segments_of_not_mem (colon_not_mem_linkedPlace 13)
  have hne : directory ≠ "" := render_ne_empty _
  have hfound : v.stat (join directory "cc") = .ok (place, .file [] true) := by
    rw [hjoin]
    exact stat_wellTree isName_longName hs 13 hshort
  have herror : v.canonicalize (join directory "cc") = .error .nameTooLong := by
    rw [hjoin]
    exact canonicalize_wellTree isName_longName hs 13 hshort hdeep
  have hprogram : programAt? v (join directory "cc") =
      some (render (linkedPlace longName 13 ++ ["cc"])) := by
    rw [programAt?, hfound, canonicalOr, herror, ← hjoin]
    rfl
  have hslash : '/' ∈ (join directory "cc").toList := by
    rw [hjoin, mem_toList_render (List.append_ne_nil_of_right_ne_nil _ (List.cons_ne_nil _ _))]
    exact ⟨"cc", List.mem_append_right _ List.mem_cons_self, .inl rfl⟩
  refine ⟨wellFormed_wellTree hs, named_wellTree isName_longName,
    ⟨[], [], hsegments, hne, ⟨_, _, hfound, rfl⟩, by simp⟩, hfound,
    ⟨render (linkedPlace longName 13 ++ ["cc"]), ?_, ?_⟩, ?_⟩
  · rw [resolveProgram_plain (by decide), hsegments, List.findSome?_cons, tried, if_neg hne,
      hprogram]
  · intro hsame
    have hsizes := congrArg String.utf8ByteSize hsame
    rw [utf8ByteSize_linkedPlace, utf8ByteSize_program longName (by decide),
      utf8ByteSize_longName] at hsizes
    cases hsizes
  · rw [resolveProgram_slash hslash, resolvePath, hfound, herror]
    rfl

end Compiler

end Playground
