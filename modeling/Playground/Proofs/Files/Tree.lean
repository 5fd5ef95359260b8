import Playground.Files.Tree
import Playground.Proofs.Files.Path

/-!
# Reading and writing in a directory

What a path does that goes through directories only and ends with one more name.

* `IsName` — a name that an entry of a directory can have.
* `WellFormed`, `Named` — a tree whose entries are in directories, and one whose entries have names.
* `walk_name` — how a path goes on at a name.
* `IsOpen` — a directory that is reached through directories only.
* `Holds` — the bytes that a directory has under a name, links followed.
* `IsOpen.read_eq_ok_iff` — reading gives exactly these bytes.
* `IsOpen.write_new`, `IsOpen.isName_of_write` — a new file is made exactly if its name can be one.
-/

set_option autoImplicit false

namespace Playground

namespace Files

open Playground.Path

/-- A name that an entry of a directory can have. -/
structure IsName (name : String) : Prop where
  plain : Plain name
  not_dot : name ≠ "."
  not_dots : name ≠ ".."
  no_nul : '\x00' ∉ name.toList
  short : name.utf8ByteSize ≤ Tree.longestName

instance (name : String) : Decidable (IsName name) :=
  decidable_of_iff
    (Plain name ∧ name ≠ "." ∧ name ≠ ".." ∧ '\x00' ∉ name.toList ∧
      name.utf8ByteSize ≤ Tree.longestName)
    ⟨fun ⟨plain, dot, dots, nul, short⟩ => ⟨plain, dot, dots, nul, short⟩,
      fun h => ⟨h.plain, h.not_dot, h.not_dots, h.no_nul, h.short⟩⟩

/-- Whether the entry itself is read: it is neither a directory nor a link. -/
def Entry.isContent : Entry → Bool
  | .directory | .link _ => false
  | _ => true

theorem Entry.isContent_of_isFile {e : Entry} (h : e.isFile) : e ≠ .directory ∧ e.isContent := by
  cases e with
  | file bytes executable => exact ⟨Entry.noConfusion, rfl⟩
  | tool name => exact ⟨Entry.noConfusion, rfl⟩
  | _ => cases h

namespace Tree

variable {t : Tree} {place other : Place} {name : String} {e e' : Entry}

/-! ## Entries -/

@[simp] theorem find?_nil (t : Tree) : t.find? [] = some .directory := if_pos rfl

theorem find?_of_ne_nil (h : place ≠ []) : t.find? place = t.entries.lookup place := if_neg h

theorem find?_append_singleton (place : Place) (name : String) :
    t.find? (place ++ [name]) = t.entries.lookup (place ++ [name]) := find?_of_ne_nil (by simp)

/-- What a filter of keys leaves of the entry of one key. -/
theorem lookup_filter {α β : Type} [BEq α] [LawfulBEq α] (p : α → Bool) (key : α) :
    ∀ entries : List (α × β),
      (entries.filter (p ·.1)).lookup key = if p key then entries.lookup key else none
  | [] => by simp
  | (first, value) :: rest => by
    have ih := lookup_filter p key rest
    rw [List.filter_cons, List.lookup_cons]
    by_cases heq : key = first
    · rw [heq, beq_self_eq_true]
      by_cases hp : p first = true
      · simp only [hp, if_true, List.lookup_cons_self]
      · simp only [hp, Bool.false_eq_true, if_false]
        rw [← heq, ih, heq, if_neg hp]
    · rw [beq_false_of_ne heq]
      by_cases hp : p first = true
      · simp only [hp, if_true, List.lookup_cons, beq_false_of_ne heq, ih]
      · simp only [hp, Bool.false_eq_true, if_false, ih]

theorem find?_put_self (h : place ≠ []) : (t.put place e).find? place = some e := by
  rw [find?_of_ne_nil h, put, List.lookup_cons_self]

theorem find?_put_of_ne (h : other ≠ place) : (t.put place e).find? other = t.find? other := by
  unfold find?
  split
  · rfl
  · have hp : (other != place) = true := bne_iff_ne.mpr h
    rw [put, List.lookup_cons, beq_false_of_ne h]
    exact (lookup_filter (· != place) other t.entries).trans (if_pos hp)

theorem put_put (t : Tree) (place : Place) (e e' : Entry) :
    (t.put place e).put place e' = t.put place e' := by
  simp [put, List.filter_filter]

/-- Every entry is in a directory. -/
def WellFormed (t : Tree) : Prop :=
  ∀ place name, (t.find? (place ++ [name])).isSome → t.find? place = some .directory

/-- It is enough to look at the entries that are listed. -/
theorem wellFormed_of_entries (h : ∀ p ∈ t.entries, t.find? p.1.dropLast = some .directory) :
    t.WellFormed := by
  intro place name hsome
  rw [find?_append_singleton, List.lookup_isSome_iff] at hsome
  obtain ⟨p, hp, hkey⟩ := hsome
  have hdir := h p hp
  rw [← eq_of_beq hkey, List.dropLast_concat] at hdir
  exact hdir

/-- Below what is not there, there is nothing. -/
theorem WellFormed.find?_below (h : t.WellFormed) (rest : List String) : ∀ {place : Place},
    t.find? place = none → t.find? (place ++ rest) = none := by
  induction rest with
  | nil => intro place hnone; rw [List.append_nil, hnone]
  | cons name rest ih =>
    intro place hnone
    rw [← List.singleton_append, ← List.append_assoc]
    refine ih ?_
    cases hf : t.find? (place ++ [name]) with
    | none => rfl
    | some e =>
      have hdir := h place name (by rw [hf]; rfl)
      rw [hnone] at hdir
      cases hdir

/-- What is above an entry is a directory. -/
theorem WellFormed.find?_above (h : t.WellFormed) (hfind : t.find? place = some e) {p : Place}
    (hp : p <+: place) (hne : p ≠ place) : t.find? p = some .directory := by
  obtain ⟨rest, rfl⟩ := hp
  cases rest with
  | nil => exact absurd (List.append_nil p).symm hne
  | cons name rest =>
    refine h p name ?_
    rw [← List.singleton_append, ← List.append_assoc] at hfind
    cases hnext : t.find? (p ++ [name]) with
    | some e' => rfl
    | none =>
      rw [h.find?_below rest hnext] at hfind
      cases hfind

/-- Every entry is named. -/
def Named (t : Tree) : Prop := ∀ p ∈ t.entries, ∀ name ∈ p.1, IsName name

instance (t : Tree) : Decidable t.Named :=
  inferInstanceAs (Decidable (∀ p ∈ t.entries, ∀ name ∈ p.1, IsName name))

theorem Named.isName (h : t.Named) (hfind : t.find? place = some e) : ∀ n ∈ place, IsName n := by
  by_cases hne : place = []
  · simp [hne]
  · rw [find?_of_ne_nil hne] at hfind
    obtain ⟨before, after, hentries, -⟩ := List.lookup_eq_some_iff.mp hfind
    exact h (place, e) (by rw [hentries]; simp)

/-! ## Paths through directories -/

variable {follow : Bool} {links : Nat} {here : Place} {rest : List String}

/-- How a walk goes on at a name, once it is known what stands there. -/
def goOn (t : Tree) (follow : Bool) (links : Nat) (here : Place) (name : String)
    (rest : List String) : Option Entry → Except FileError Target
  | none => if rest = [] then .ok (.vacant here name) else .error .missing
  | some .directory => t.walk follow links (here ++ [name]) rest
  | some (.link target) =>
    if rest = [] ∧ !follow then .ok (.found (here ++ [name]) (.link target))
    else
      match links with
      | 0 => .error .linkLoop
      | links + 1 =>
        t.walk follow links (if isAbsolute target then [] else here) (strictComponents target ++ rest)
  | some entry => if rest = [] then .ok (.found (here ++ [name]) entry) else .error .notDirectory

theorem goOn_directory (t : Tree) (follow : Bool) (links : Nat) (here : Place) (name : String)
    (rest : List String) : t.goOn follow links here name rest (some .directory) =
      t.walk follow links (here ++ [name]) rest := rfl

theorem goOn_link (t : Tree) (links : Nat) (here : Place) (name target : String)
    (rest : List String) : t.goOn true (links + 1) here name rest (some (.link target)) =
      t.walk true links (if isAbsolute target then [] else here) (strictComponents target ++ rest) :=
  if_neg (by simp)

theorem walk_skip (rest : List String) :
    t.walk follow links here ("." :: rest) = t.walk follow links here rest := by
  rw [walk, if_pos rfl]

theorem walk_up (rest : List String) :
    t.walk follow links here (".." :: rest) = t.walk follow links here.dropLast rest := by
  rw [walk, if_neg (by decide), if_pos rfl]

/-- What comes of a name depends on what stands there only. -/
theorem walk_name (hdot : name ≠ ".") (hdots : name ≠ "..") :
    t.walk follow links here (name :: rest) =
      if longestName < name.utf8ByteSize then .error .nameTooLong
      else t.goOn follow links here name rest (t.find? (here ++ [name])) := by
  rw [walk, if_neg hdot, if_neg hdots]
  dsimp only
  cases t.find? (here ++ [name]) with
  | none => rfl
  | some e => cases e <;> rfl

theorem walk_isName (hn : IsName name) : t.walk follow links here (name :: rest) =
    t.goOn follow links here name rest (t.find? (here ++ [name])) := by
  rw [walk_name hn.not_dot hn.not_dots, if_neg (Nat.not_lt.mpr hn.short)]

theorem walk_directory (hn : IsName name) (h : t.find? (here ++ [name]) = some .directory) :
    t.walk follow links here (name :: rest) = t.walk follow links (here ++ [name]) rest := by
  rw [walk_isName hn, h, goOn_directory]

theorem walk_tooLong (hdot : name ≠ ".") (hdots : name ≠ "..")
    (h : longestName < name.utf8ByteSize) :
    t.walk follow links here (name :: rest) = .error .nameTooLong := by
  rw [walk_name hdot hdots, if_pos h]

theorem walk_dot : t.walk follow links here ["."] = .ok (.found here .directory) := by
  rw [walk_skip, walk]

theorem walk_vacant (hn : IsName name) (h : t.find? (here ++ [name]) = none) :
    t.walk follow links here [name] = .ok (.vacant here name) := by
  simp only [walk_isName hn, h, goOn, if_true]

theorem walk_content (hn : IsName name) (h : t.find? (here ++ [name]) = some e)
    (he : e.isContent) : t.walk follow links here [name] = .ok (.found (here ++ [name]) e) := by
  rw [walk_isName hn, h]
  cases e with
  | directory => cases he
  | link target => cases he
  | _ => simp only [goOn, if_true]

/-- Where a link of a directory leads. -/
def followed (t : Tree) (directory : Place) (target : String) : Except FileError Target :=
  t.walk true (linkLimit - 1) (if isAbsolute target then [] else directory) (strictComponents target)

theorem walk_link {target : String} (hn : IsName name)
    (h : t.find? (here ++ [name]) = some (.link target)) :
    t.walk true linkLimit here [name] = t.followed here target := by
  rw [walk_isName hn, h, linkLimit, goOn_link, List.append_nil]
  rfl

/-- A path goes through directories without a detour. -/
theorem walk_open (front : Place) (hn : ∀ name ∈ front, IsName name) : ∀ {here : Place},
    (∀ p, p <+: front → t.find? (here ++ p) = some .directory) →
      t.walk follow links here (front ++ rest) = t.walk follow links (here ++ front) rest := by
  induction front with
  | nil => intro here _; rw [List.nil_append, List.append_nil]
  | cons name front ih =>
    intro here h
    rw [List.cons_append, walk_directory (hn name List.mem_cons_self)
      (h [name] (by simp [List.cons_prefix_cons]))]
    have hfront : ∀ p, p <+: front → t.find? (here ++ [name] ++ p) = some .directory := by
      intro p hp
      rw [List.append_assoc]
      exact h (name :: p) (List.cons_prefix_cons.mpr ⟨rfl, hp⟩)
    rw [ih (fun n hmem => hn n (List.mem_cons_of_mem _ hmem)) hfront, List.append_assoc,
      List.singleton_append]

/-! ## One more name -/

/-- Where a path leads that has no detour and ends with a name. -/
theorem locate_eq (h : ∀ n ∈ place ++ [name], Plain n) (here : Place) :
    t.locate true here (render (place ++ [name])) =
      if '\x00' ∈ (render (place ++ [name])).toList then .error .badPath
      else if pathBound ≤ (render (place ++ [name])).utf8ByteSize then .error .nameTooLong
      else t.walk true linkLimit [] (place ++ [name]) := by
  unfold locate
  rw [isAbsolute_render, endsInSlash_render place (h name (by simp)), components_render h,
    if_neg (render_ne_empty _)]
  simp only [List.contains_eq_mem, decide_eq_true_eq, if_true, Bool.or_false, Bool.false_and,
    Bool.false_eq_true, if_false]
  split
  · rfl
  · split
    · rfl
    · cases t.walk true linkLimit [] (place ++ [name]) with
      | error e => rfl
      | ok target => cases target <;> rfl

theorem nul_not_mem_render (h : ∀ n ∈ place, IsName n) : '\x00' ∉ (render place).toList := by
  by_cases hne : place = []
  · rw [hne]
    decide
  · rw [mem_toList_render hne]
    rintro ⟨n, hn, hc | hc⟩
    · cases hc
    · exact (h n hn).no_nul hc

/-- A directory below the root that is reached through directories only. Its path leaves room for
any name. -/
structure IsOpen (t : Tree) (place : Place) : Prop where
  names : ∀ name ∈ place, IsName name
  directories : ∀ p, p <+: place → t.find? p = some .directory
  below_root : place ≠ []
  room : (render place).utf8ByteSize + 1 + longestName < pathBound

namespace IsOpen

theorem plain (hopen : t.IsOpen place) (hname : Plain name) : ∀ n ∈ place ++ [name], Plain n := by
  intro n hn
  obtain hn | hn := List.mem_append.mp hn
  · exact (hopen.names n hn).plain
  · rw [List.mem_singleton.mp hn]
    exact hname

theorem walk (hopen : t.IsOpen place) (rest : List String) :
    t.walk follow links [] (place ++ rest) = t.walk follow links place rest :=
  walk_open place hopen.names hopen.directories

/-- Where the name of an entry leads. -/
theorem locate (hopen : t.IsOpen place) (hname : IsName name) (here : Place) :
    t.locate true here (render (place ++ [name])) = t.walk true linkLimit place [name] := by
  have hnul : '\x00' ∉ (render (place ++ [name])).toList := by
    refine nul_not_mem_render fun n hn => ?_
    obtain hn | hn := List.mem_append.mp hn
    · exact hopen.names n hn
    · exact List.mem_singleton.mp hn ▸ hname
  have hsize : ¬ pathBound ≤ (render (place ++ [name])).utf8ByteSize := by
    have hroom := hopen.room
    have hshort := hname.short
    rw [utf8ByteSize_render_append hopen.below_root]
    omega
  rw [locate_eq (hopen.plain hname.plain), if_neg hnul, if_neg hsize, hopen.walk]

/-- What a path to a file in the directory names. -/
theorem stat_content (hopen : t.IsOpen place) (hname : IsName name)
    (h : t.find? (place ++ [name]) = some e) (he : e.isContent) (here : Place) :
    t.stat here (render (place ++ [name])) = .ok (place ++ [name], e) := by
  rw [stat, hopen.locate hname, walk_content hname h he]
  rfl

/-- A name that leads anywhere but to the directory itself is the name of an entry. -/
theorem isName_of_locate (hopen : t.IsOpen place) (hname : Plain name) (hdots : name ≠ "..")
    {here : Place} {target : Target}
    (h : t.locate true here (render (place ++ [name])) = .ok target)
    (hself : target ≠ .found place .directory) : IsName name := by
  rw [locate_eq (hopen.plain hname), hopen.walk] at h
  split at h
  · cases h
  · rename_i hnul
    split at h
    · cases h
    · have hdot : name ≠ "." := by
        rintro rfl
        rw [walk_dot] at h
        exact hself (Except.ok.inj h).symm
      have hshort : ¬ longestName < name.utf8ByteSize := by
        intro hlong
        rw [walk_tooLong hdot hdots hlong] at h
        cases h
      refine ⟨hname, hdot, hdots, fun hc => hnul ?_, Nat.not_lt.mp hshort⟩
      rw [mem_toList_render (by simp)]
      exact ⟨name, by simp, .inr hc⟩

end IsOpen

/-- What a directory has under a name: the bytes of the entry, or of what a link leads to. -/
inductive Holds (t : Tree) (directory : Place) (name : String) : List UInt8 → Prop
  | entry {e : Entry} (found : t.find? (directory ++ [name]) = some e) (content : e.isContent) :
      Holds t directory name e.bytes
  | link {target : String} {place : Place} {e : Entry}
      (found : t.find? (directory ++ [name]) = some (.link target))
      (leads : t.followed directory target = .ok (.found place e)) (file : !e.isDirectory) :
      Holds t directory name e.bytes

/-- What reading makes of the end of a path. -/
def content : Target → Except FileError (List UInt8)
  | .found _ e => if e.isDirectory then .error .isDirectory else .ok e.bytes
  | .vacant .. => .error .missing

theorem read_eq (t : Tree) (here : Place) (path : String) :
    t.read here path = t.locate true here path >>= content := by
  unfold read stat
  cases t.locate true here path with
  | error e => rfl
  | ok target => cases target <;> rfl

/-- The end of a path with the name of an entry. -/
theorem content_walk_iff (hn : IsName name) (bytes : List UInt8) :
    t.walk true linkLimit place [name] >>= content = .ok bytes ↔ t.Holds place name bytes := by
  constructor
  · intro h
    cases hf : t.find? (place ++ [name]) with
    | none => rw [walk_vacant hn hf] at h; cases h
    | some e =>
      cases e with
      | directory =>
        rw [walk_directory hn hf, walk] at h
        cases h
      | link target =>
        rw [walk_link hn hf] at h
        cases hl : t.followed place target with
        | error err => rw [hl] at h; cases h
        | ok target' =>
          rw [hl] at h
          cases target' with
          | vacant d n => cases h
          | found p e =>
            cases hd : e.isDirectory with
            | true => simp [bind, Except.bind, content, hd] at h
            | false =>
              simp only [bind, Except.bind, content, hd, Bool.false_eq_true, if_false] at h
              cases h
              exact .link hf hl (by rw [hd]; rfl)
      | _ =>
        rw [walk_content hn hf rfl] at h
        cases h
        exact .entry hf rfl
  · rintro (⟨found, hcontent⟩ | ⟨found, leads, file⟩)
    · rename_i e
      rw [walk_content hn found hcontent]
      cases e with
      | directory => cases hcontent
      | _ => rfl
    · rename_i target p e
      rw [walk_link hn found, leads]
      have hd : e.isDirectory = false := by rwa [Bool.not_eq_true'] at file
      simp [bind, Except.bind, content, hd]

/-- **Reading gives the bytes that the directory has under the name**, and nothing has a name that
no entry can have. -/
theorem IsOpen.read_eq_ok_iff (hopen : t.IsOpen place) (hname : Plain name) (hdots : name ≠ "..")
    (here : Place) (bytes : List UInt8) :
    t.read here (render (place ++ [name])) = .ok bytes ↔
      IsName name ∧ t.Holds place name bytes := by
  rw [read_eq]
  constructor
  · intro h
    cases hl : t.locate true here (render (place ++ [name])) with
    | error e => rw [hl] at h; cases h
    | ok target =>
      have hself : target ≠ .found place .directory := by
        rintro rfl
        rw [hl] at h
        cases h
      have hn := hopen.isName_of_locate hname hdots hl hself
      rw [hopen.locate hn] at h
      exact ⟨hn, (content_walk_iff hn bytes).mp h⟩
  · rintro ⟨hn, h⟩
    rw [hopen.locate hn]
    exact (content_walk_iff hn bytes).mpr h

/-! ## New files -/

theorem write_eq (t : Tree) (here : Place) {path : String} (hslash : endsInSlash path = false)
    (bytes : List UInt8) : t.write here path bytes =
      match t.locate true here path with
      | .error e => .error e
      | .ok (.found place e) => if e.isDirectory then .error .isDirectory
          else .ok (t.setBytes place bytes)
      | .ok (.vacant directory name) =>
        let place := directory ++ [name]
        .ok ((t.put place (.file [] false)).setBytes place bytes) := by
  unfold write openForWriting
  rw [hslash, if_neg Bool.false_ne_true]
  cases t.locate true here path with
  | error e => rfl
  | ok target =>
    cases target with
    | vacant directory name => rfl
    | found place e =>
      cases hd : e.isDirectory <;> simp [bind, Except.bind, hd, pure, Except.pure, throw,
        throwThe, MonadExceptOf.throw]

theorem setBytes_new (hne : place ≠ []) (bytes : List UInt8) :
    (t.put place (.file [] false)).setBytes place bytes = t.put place (.file bytes false) := by
  simp only [setBytes, find?_put_self hne, put_put]

/-- A new file in an open directory. -/
theorem IsOpen.write_new (hopen : t.IsOpen place) (hname : IsName name)
    (hvacant : t.find? (place ++ [name]) = none) (here : Place) (bytes : List UInt8) :
    t.write here (render (place ++ [name])) bytes =
      .ok (t.put (place ++ [name]) (.file bytes false)) := by
  rw [write_eq t here (endsInSlash_render place hname.plain), hopen.locate hname,
    walk_vacant hname hvacant]
  exact congrArg Except.ok (setBytes_new (by simp) bytes)

/-- What was written has the name of an entry. -/
theorem IsOpen.isName_of_write (hopen : t.IsOpen place) (hname : Plain name) (hdots : name ≠ "..")
    {here : Place} {bytes : List UInt8} {t' : Tree}
    (h : t.write here (render (place ++ [name])) bytes = .ok t') : IsName name := by
  rw [write_eq t here (endsInSlash_render place hname)] at h
  cases hl : t.locate true here (render (place ++ [name])) with
  | error e => rw [hl] at h; cases h
  | ok target =>
    refine hopen.isName_of_locate hname hdots hl ?_
    rintro rfl
    rw [hl] at h
    cases h

end Tree

end Files

end Playground
