import Playground.Proofs.Files.Tree

/-!
# Canonical paths

The canonical path of a file goes from the root through directories only. It is found by following a
path name by name, and every name on the way is looked up by its own path from the root. So there is
a canonical path unless the way leads through a place that is too deep for that.

* `Tree.Passes`, `Tree.OnWay` — the places at which names are looked up on the way of a path.
* `Tree.find?_of_walk` — what a path leads to stands at the place where it ends.
* `Tree.directory_of_walk_dot`, `Tree.directory_of_followed` — a slash at the end of the target of a
  link asks for a directory.
* `Tree.walk_only`, `Tree.passes_only` — a way leads on in a part of a tree exactly if all of its
  places are in that part.
* `Tree.Canonical`, `Tree.canonical_of_find?` — a place that its own path leads to without a detour.
* `Tree.canonicalize_cases` — a file has a canonical path unless a place on the way is too deep.
-/

set_option autoImplicit false

namespace Playground

namespace Files

open Playground.Path

namespace Tree

variable {t : Tree} {follow : Bool} {links : Nat} {here place q : Place} {name : String}
  {names rest : List String} {e : Entry}

/-! ## The way of a path -/

/-- The place `q` is looked at on the way that names lead from a directory, links followed. -/
inductive Passes (t : Tree) (q : Place) : Nat → Place → List String → Prop
  | dot {links : Nat} {here : Place} {rest : List String} (h : Passes t q links here rest) :
      Passes t q links here ("." :: rest)
  | dots {links : Nat} {here : Place} {rest : List String}
      (h : Passes t q links here.dropLast rest) : Passes t q links here (".." :: rest)
  | here {links : Nat} {here : Place} {name : String} {rest : List String} (hdot : name ≠ ".")
      (hdots : name ≠ "..") (hq : q = here ++ [name]) : Passes t q links here (name :: rest)
  | directory {links : Nat} {here : Place} {name : String} {rest : List String} (hdot : name ≠ ".")
      (hdots : name ≠ "..") (hfind : t.find? (here ++ [name]) = some .directory)
      (h : Passes t q links (here ++ [name]) rest) : Passes t q links here (name :: rest)
  | link {links : Nat} {here : Place} {name target : String} {rest : List String}
      (hdot : name ≠ ".") (hdots : name ≠ "..")
      (hfind : t.find? (here ++ [name]) = some (.link target))
      (h : Passes t q links (if isAbsolute target then [] else here) (strictComponents target ++ rest)) :
      Passes t q (links + 1) here (name :: rest)

/-- The directory that a path starts from. -/
def start (here : Place) (path : String) : Place := if isAbsolute path then [] else here

/-- The place `q` is on the way of a path. -/
def OnWay (t : Tree) (here : Place) (path : String) (q : Place) : Prop :=
  t.Passes q linkLimit (start here path) (components path)

/-! ## Along the way -/

/-- A name that something is found behind is the name of an entry. -/
theorem find?_ne_none_of_walk (hdot : name ≠ ".") (hdots : name ≠ "..")
    (h : t.walk follow links here (name :: rest) = .ok (.found place e)) :
    t.find? (here ++ [name]) ≠ none := by
  intro hnone
  rw [walk_name hdot hdots, hnone, goOn] at h
  split at h
  · cases h
  · split at h <;> cases h

/-- Induction along the way that names lead: what stands at the place of a name says whether and
where it goes on. -/
theorem walk_induction (t : Tree) {motive : Nat → Place → List String → Prop}
    (nil : ∀ links here, motive links here [])
    (dot : ∀ links here rest, motive links here rest → motive links here ("." :: rest))
    (dots : ∀ links here rest, motive links here.dropLast rest → motive links here (".." :: rest))
    (name : ∀ links here name rest, name ≠ "." → name ≠ ".." →
      (t.find? (here ++ [name]) = some .directory → motive links (here ++ [name]) rest) →
      (∀ target fewer, t.find? (here ++ [name]) = some (.link target) → links = fewer + 1 →
        motive fewer (if isAbsolute target then [] else here) (strictComponents target ++ rest)) →
      motive links here (name :: rest)) :
    ∀ links here names, motive links here names
  | links, here, [] => nil links here
  | links, here, first :: rest =>
    if hdot : first = "." then
      hdot ▸ dot links here rest (walk_induction t nil dot dots name links here rest)
    else if hdots : first = ".." then
      hdots ▸ dots links here rest (walk_induction t nil dot dots name links here.dropLast rest)
    else
      name links here first rest hdot hdots
        (fun _ => walk_induction t nil dot dots name links (here ++ [first]) rest)
        (fun target fewer _ hlinks =>
          have : fewer < links := hlinks ▸ Nat.lt_succ_self fewer
          walk_induction t nil dot dots name fewer (if isAbsolute target then [] else here)
            (strictComponents target ++ rest))
termination_by links _ names => (links, names.length)

/-- **What names lead to stands at the place where they end**; only a directory can be reached
without looking at it. -/
theorem find?_of_walk (h : t.walk true links here names = .ok (.found place e)) :
    e = .directory ∨ t.find? place = some e ∧ e.isContent := by
  induction links, here, names using walk_induction t with
  | nil links here =>
    rw [walk] at h
    cases h
    exact .inl rfl
  | dot links here rest ih => exact ih (walk_skip rest ▸ h)
  | dots links here rest ih => exact ih (walk_up rest ▸ h)
  | name links here name rest hdot hdots hdirectory hlink =>
    rw [walk_name hdot hdots] at h
    split at h
    · cases h
    cases hfind : t.find? (here ++ [name]) with
    | none =>
      rw [hfind, goOn] at h
      split at h <;> cases h
    | some entry =>
      rw [hfind] at h
      cases entry with
      | directory => exact hdirectory hfind h
      | link target =>
        cases links with
        | zero =>
          rw [goOn, if_neg (by simp)] at h
          cases h
        | succ fewer =>
          rw [goOn_link] at h
          exact hlink target fewer hfind rfl h
      | _ =>
        simp only [goOn] at h
        split at h
        · cases h
          exact .inr ⟨hfind, rfl⟩
        · cases h

/-- What follows a first name of another kind ends as all of it. -/
theorem getLast?_rest {last : String} (hne : name ≠ last)
    (h : (name :: rest).getLast? = some last) : rest.getLast? = some last := by
  rw [List.getLast?_cons] at h
  cases hrest : rest.getLast? with
  | none =>
    rw [hrest] at h
    exact absurd (Option.some.inj h) hne
  | some other =>
    rw [hrest] at h
    exact h

/-- Names with a single dot at their end lead to a directory or nowhere. -/
theorem directory_of_walk_dot (hlast : names.getLast? = some ".")
    (h : t.walk true links here names = .ok (.found place e)) : e = .directory := by
  induction links, here, names using walk_induction t with
  | nil links here => cases hlast
  | dot links here rest ih =>
    rw [walk_skip] at h
    by_cases hrest : rest = []
    · rw [hrest, walk] at h
      cases h
      rfl
    · rw [List.getLast?_cons_of_ne_nil hrest] at hlast
      exact ih hlast h
  | dots links here rest ih => exact ih (getLast?_rest (by decide) hlast) (walk_up rest ▸ h)
  | name links here name rest hdot hdots hdirectory hlink =>
    have hlast := getLast?_rest hdot hlast
    have hne : rest ≠ [] := by
      rintro rfl
      cases hlast
    rw [walk_name hdot hdots] at h
    split at h
    · cases h
    cases hfind : t.find? (here ++ [name]) with
    | none =>
      rw [hfind, goOn, if_neg hne] at h
      cases h
    | some entry =>
      rw [hfind] at h
      cases entry with
      | directory => exact hdirectory hfind hlast h
      | link target =>
        cases links with
        | zero =>
          rw [goOn, if_neg (by simp)] at h
          cases h
        | succ fewer =>
          rw [goOn_link] at h
          refine hlink target fewer hfind rfl ?_ h
          rw [List.getLast?_append, hlast, Option.some_or]
      | _ =>
        simp only [goOn, if_neg hne] at h
        cases h

/-- **A link whose target ends in a slash leads to a directory** or nowhere. -/
theorem directory_of_followed {target : String} (hslash : endsInSlash target)
    (h : t.followed here target = .ok (.found place e)) : e = .directory := by
  refine directory_of_walk_dot ?_ h
  rw [strictComponents, if_pos hslash, List.getLast?_concat]

/-- Without the slash the link leads to the file. -/
example :
    let t : Tree := ⟨[(["real"], .file [] true), (["s"], .link "real/"), (["l"], .link "real")]⟩
    t.walk true linkLimit [] ["s"] = .error .notDirectory ∧
      t.walk true linkLimit [] ["l"] = .ok (.found ["real"] (.file [] true)) := by cbv

/-! ## Parts of a tree -/

/-- The part of a tree that is at some of its places. -/
def only (t : Tree) (p : Place → Bool) : Tree := ⟨t.entries.filter (p ·.1)⟩

variable {p : Place → Bool}

theorem find?_only (hne : place ≠ []) :
    (t.only p).find? place = if p place then t.find? place else none := by
  rw [find?_of_ne_nil hne, find?_of_ne_nil hne]
  exact lookup_filter p place t.entries

theorem find?_only_of_pos (h : p place) : (t.only p).find? place = t.find? place := by
  by_cases hne : place = []
  · rw [hne, find?_nil, find?_nil]
  · rw [find?_only hne, if_pos h]

/-- The entry of a name in a part is that of the tree. -/
theorem find?_of_only (h : (t.only p).find? (here ++ [name]) ≠ none) :
    p (here ++ [name]) ∧ (t.only p).find? (here ++ [name]) = t.find? (here ++ [name]) := by
  by_cases hp : p (here ++ [name])
  · exact ⟨hp, find?_only_of_pos hp⟩
  · rw [find?_only (by simp), if_neg hp] at h
    exact absurd rfl h

/-- **In a part that holds all places of its way a path leads where it leads in the tree.** -/
theorem walk_only (h : ∀ q, t.Passes q links here names → p q) :
    (t.only p).walk true links here names = t.walk true links here names := by
  induction links, here, names using walk_induction t with
  | nil links here => rw [walk, walk]
  | dot links here rest ih => rw [walk_skip, walk_skip, ih fun q hq => h q (.dot hq)]
  | dots links here rest ih => rw [walk_up, walk_up, ih fun q hq => h q (.dots hq)]
  | name links here name rest hdot hdots hdirectory hlink =>
    have hsame : (t.only p).find? (here ++ [name]) = t.find? (here ++ [name]) :=
      find?_only_of_pos (h _ (.here hdot hdots rfl))
    rw [walk_name hdot hdots, walk_name hdot hdots, hsame]
    cases hfind : t.find? (here ++ [name]) with
    | none => rfl
    | some entry =>
      cases entry with
      | directory =>
        have hrest := hdirectory hfind fun q hq => h q (.directory hdot hdots hfind hq)
        rw [goOn_directory, goOn_directory, hrest]
      | link target =>
        cases links with
        | zero => rfl
        | succ fewer =>
          have hrest := hlink target fewer hfind rfl fun q hq => h q (.link hdot hdots hfind hq)
          rw [goOn_link, goOn_link, hrest]
      | _ => rfl

/-- **A path that leads somewhere in a part of a tree passes places of that part only.** -/
theorem passes_only (hq : t.Passes q links here names)
    (h : (t.only p).walk true links here names = .ok (.found place e)) : p q := by
  induction hq with
  | dot _ ih => exact ih (walk_skip _ ▸ h)
  | dots _ ih => exact ih (walk_up _ ▸ h)
  | here hdot hdots hq =>
    rw [hq]
    exact (find?_of_only (find?_ne_none_of_walk hdot hdots h)).1
  | directory hdot hdots hfind _ ih =>
    have hsame := (find?_of_only (find?_ne_none_of_walk hdot hdots h)).2
    rw [walk_name hdot hdots, hsame, hfind] at h
    split at h
    · cases h
    · exact ih h
  | link hdot hdots hfind _ ih =>
    have hsame := (find?_of_only (find?_ne_none_of_walk hdot hdots h)).2
    rw [walk_name hdot hdots, hsame, hfind, goOn_link] at h
    split at h
    · cases h
    · exact ih h

/-! ## The end of a path -/

/-- The names of a path lead to what the path names. -/
theorem walk_of_stat {path : String} (h : t.stat here path = .ok (place, e)) :
    t.walk true linkLimit (start here path) (components path) = .ok (.found place e) := by
  unfold start
  simp only [stat, locate, Bool.true_or] at h
  split at h
  · cases h
  split at h
  · cases h
  split at h
  · cases h
  cases hwalk : t.walk true linkLimit (if isAbsolute path then [] else here) (components path) with
  | error e => rw [hwalk] at h; cases h
  | ok target =>
    rw [hwalk] at h
    cases target with
    | vacant directory name => cases h
    | found last found =>
      dsimp only [bind, Except.bind] at h
      by_cases hslash : (endsInSlash path && !found.isDirectory) = true
      · rw [if_pos hslash] at h
        cases h
      · rw [if_neg hslash] at h
        cases h
        rfl

/-- Two trees in which the names of a path lead to the same end. -/
theorem stat_congr {t' : Tree} {path : String}
    (h : t'.walk true linkLimit (start here path) (components path) =
      t.walk true linkLimit (start here path) (components path)) :
    t'.stat here path = t.stat here path := by
  rw [start] at h
  rw [stat, stat, locate, locate]
  dsimp only
  rw [Bool.true_or, h]

/-- What a path names is there, if it is no directory. -/
theorem find?_of_stat {path : String} (h : t.stat here path = .ok (place, e))
    (he : e ≠ .directory) : t.find? place = some e ∧ e.isContent :=
  (find?_of_walk (walk_of_stat h)).resolve_left he

/-! ## Canonical paths -/

/-- Whether the path of a place is none that is too long. -/
def Shallow (place : Place) : Bool := decide ((render place).utf8ByteSize < pathBound)

theorem nameable_eq (t : Tree) : t.nameable = t.only Shallow := rfl

/-- **A file has a canonical path unless a place on the way is too deep.** -/
theorem canonicalize_cases {path : String} (h : t.stat here path = .ok (place, e))
    (he : e ≠ .directory) :
    (∀ q, t.OnWay here path q → Shallow q) ∧ Shallow place ∧ t.canonicalize here path = .ok place ∨
      (∃ q, t.OnWay here path q ∧ ¬ Shallow q) ∧
        t.canonicalize here path = .error .nameTooLong := by
  by_cases hway : ∀ q, t.OnWay here path q → Shallow q
  · have hpart : t.nameable.stat here path = .ok (place, e) := by
      rw [nameable_eq, stat_congr (walk_only hway), h]
    have hfind := (find?_of_stat hpart he).1
    have hne : place ≠ [] := by
      rintro rfl
      exact he (Option.some.inj hfind).symm
    refine .inl ⟨hway, ?_, ?_⟩
    · rw [nameable_eq, find?_only hne] at hfind
      split at hfind
      · assumption
      · cases hfind
    · rw [canonicalize, h, hpart]
      rfl
  · obtain ⟨q, hq⟩ := Classical.not_forall.mp hway
    obtain ⟨hon, hdeep⟩ := Classical.not_imp.mp hq
    refine .inr ⟨⟨q, hon, hdeep⟩, ?_⟩
    cases hpart : t.nameable.stat here path with
    | ok found =>
      obtain ⟨place', e'⟩ := found
      have hwalk := walk_of_stat (t := t.only Shallow) hpart
      exact absurd (passes_only hon hwalk) hdeep
    | error e =>
      rw [canonicalize, h, hpart]
      rfl

/-- A place that its own path leads to without a detour: no name on the way has a meaning of its own,
and there are only directories. -/
structure Canonical (t : Tree) (place : Place) (e : Entry) : Prop where
  names : ∀ name ∈ place, IsName name
  directories : ∀ p, p <+: place → p ≠ place → t.find? p = some .directory
  entry : t.find? place = some e
  leads : ∀ elsewhere, t.stat elsewhere (render place) = .ok (place, e)

/-- **Every file that has a place has a canonical one**, if its path is not too long. -/
theorem canonical_of_find? (hwell : t.WellFormed) (hnamed : t.Named)
    (hfind : t.find? place = some e) (he : e.isContent) (hshallow : Shallow place) :
    t.Canonical place e := by
  have hnames := hnamed.isName hfind
  refine ⟨hnames, fun p hp hne => hwell.find?_above hfind hp hne, hfind, fun elsewhere => ?_⟩
  obtain rfl | ⟨front, name, rfl⟩ := List.eq_nil_or_concat place
  · rw [find?_nil] at hfind
    cases hfind
    cases he
  rw [List.concat_eq_append] at *
  have hplain : ∀ n ∈ front ++ [name], Plain n := fun n hn => (hnames n hn).plain
  have hnul := nul_not_mem_render hnames
  have hshort : ¬ pathBound ≤ (render (front ++ [name])).utf8ByteSize :=
    Nat.not_le.mpr (of_decide_eq_true hshallow)
  have hfront : ∀ p, p <+: front → t.find? ([] ++ p) = some .directory := by
    intro p hp
    refine hwell.find?_above hfind (hp.trans (List.prefix_append _ _)) ?_
    rintro rfl
    have hlength := hp.length_le
    rw [List.length_append, List.length_singleton] at hlength
    exact absurd hlength (Nat.not_succ_le_self _)
  have hopen : t.walk true linkLimit [] (front ++ [name]) =
      t.walk true linkLimit ([] ++ front) [name] :=
    walk_open front (fun n hn => hnames n (List.mem_append_left _ hn)) hfront
  have hname := hnames name (by simp)
  rw [stat, locate_eq hplain, if_neg hnul, if_neg hshort, hopen, List.nil_append,
    walk_content hname hfind he]
  rfl

end Tree

end Files

end Playground
