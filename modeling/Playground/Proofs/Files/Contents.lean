import Playground.Proofs.Files.Tree

/-!
# The contents of a directory

What is below a directory can be taken out of a tree as a tree of its own, and other contents can be
put in its place.

* `below`, `graft` — the contents of a directory, and a tree with other ones.
* `Contents` — what can be the contents of a directory: every entry has a name.
* `find?_graft_below`, `find?_graft_of_not_below` — the new contents are in the directory and
  nowhere else.
* `Contents.Has`, `holds_graft_iff` — what contents have under a name once they are in place.
-/

set_option autoImplicit false

namespace Playground

namespace Files

/-- Whether a place is below a directory. A directory is not below itself. -/
def isBelow (directory place : Place) : Bool :=
  directory.isPrefixOf place && place != directory

theorem isBelow_append (directory : Place) {rest : Place} (h : rest ≠ []) :
    isBelow directory (directory ++ rest) := by
  rw [isBelow, Bool.and_eq_true, List.isPrefixOf_iff_prefix, bne_iff_ne, ne_eq]
  exact ⟨List.prefix_append _ _, fun hc => h (List.append_right_eq_self.mp hc)⟩

theorem isBelow_self (directory : Place) : isBelow directory directory = false := by
  rw [isBelow, bne_self_eq_false, Bool.and_false]

theorem not_isBelow {directory place : Place} (h : ¬ directory <+: place) :
    isBelow directory place = false := by
  rw [isBelow, Bool.and_eq_false_iff, Bool.eq_false_iff, ne_eq, List.isPrefixOf_iff_prefix]
  exact .inl h

/-- What can be the contents of a directory: entries with names, seen from there. -/
structure Contents where
  tree : Tree
  named : ∀ p ∈ tree.entries, p.1 ≠ [] ∧ ∀ name ∈ p.1, IsName name

namespace Contents

variable {files : Contents} {name : String} {e : Entry}

theorem isName_of_find? (h : files.tree.find? [name] = some e) : IsName name := by
  have hnamed : files.tree.Named := fun p hp => (files.named p hp).2
  exact hnamed.isName h name (List.mem_singleton_self name)

end Contents

namespace Tree

variable {t : Tree} {directory place : Place} {files : Contents} {e : Entry}

/-- What is below a directory, seen from there. -/
def below (t : Tree) (directory : Place) : Tree :=
  ⟨(t.entries.filter (isBelow directory ·.1)).map fun (p, e) => (p.drop directory.length, e)⟩

/-- The tree with other contents in a directory. -/
def graft (t : Tree) (directory : Place) (files : Contents) : Tree :=
  ⟨files.tree.entries.map (fun (p, e) => (directory ++ p, e)) ++
    t.entries.filter (!isBelow directory ·.1)⟩

/-! ## Looking into a directory -/

theorem lookup_map_append (directory place : Place) : ∀ entries : List (Place × Entry),
    (entries.map fun (p, e) => (directory ++ p, e)).lookup (directory ++ place) =
      entries.lookup place
  | [] => rfl
  | (key, e) :: rest => by
    have ih := lookup_map_append directory place rest
    rw [List.map_cons, List.lookup_cons, List.lookup_cons]
    by_cases h : place = key
    · rw [h, beq_self_eq_true, beq_self_eq_true]
    · have hne : directory ++ place ≠ directory ++ key := fun hc => h (List.append_cancel_left hc)
      rw [beq_false_of_ne h, beq_false_of_ne hne]
      exact ih

theorem lookup_map_of_not_below (h : isBelow directory place = false) :
    (files.tree.entries.map fun (p, e) => (directory ++ p, e)).lookup place = none := by
  rw [List.lookup_eq_none_iff]
  intro pair hmem
  obtain ⟨⟨p, e⟩, hp, rfl⟩ := List.mem_map.mp hmem
  rw [bne_iff_ne]
  rintro rfl
  rw [isBelow_append directory (files.named _ hp).1] at h
  cases h

/-- The new contents are in the directory. -/
theorem find?_graft_below {rest : Place} (h : rest ≠ []) :
    (t.graft directory files).find? (directory ++ rest) = files.tree.find? rest := by
  have hne : directory ++ rest ≠ [] := by simp [h]
  have hold : (t.entries.filter (!isBelow directory ·.1)).lookup (directory ++ rest) = none := by
    rw [lookup_filter (!isBelow directory ·), isBelow_append directory h]
    rfl
  rw [find?_of_ne_nil hne, find?_of_ne_nil h, graft, List.lookup_append, lookup_map_append, hold,
    Option.or_none]

/-- Elsewhere the tree is as it was. -/
theorem find?_graft_of_not_below (h : isBelow directory place = false) :
    (t.graft directory files).find? place = t.find? place := by
  unfold find?
  split
  · rfl
  · have hkeep := lookup_filter (!isBelow directory ·) place t.entries
    rw [h] at hkeep
    rw [graft, List.lookup_append, lookup_map_of_not_below h, Option.none_or]
    exact hkeep

/-- A directory stays open when its contents change. -/
theorem IsOpen.graft (hopen : t.IsOpen place) : (t.graft place files).IsOpen place := by
  refine ⟨hopen.names, ?_, hopen.below_root, hopen.room⟩
  intro p hp
  rw [find?_graft_of_not_below, hopen.directories p hp]
  by_cases heq : p = place
  · rw [heq, isBelow_self]
  · exact not_isBelow fun hc => heq (hp.eq_of_length_le hc.length_le)

/-! ## Changing contents -/

/-- Nothing is at a place or below it. -/
def Clear (t : Tree) (place : Place) : Prop := ∀ p ∈ t.entries, ¬ place <+: p.1

theorem clear_of_find?_none (hwf : t.WellFormed) (h : t.find? place = none) : t.Clear place := by
  rintro ⟨p, e⟩ hmem ⟨rest, rfl⟩
  have hnone := hwf.find?_below rest h
  have hsome : ((t.entries.lookup (place ++ rest))).isSome :=
    List.lookup_isSome_iff.mpr ⟨_, hmem, beq_self_eq_true _⟩
  unfold find? at hnone
  split at hnone
  · cases hnone
  · rw [hnone] at hsome
    cases hsome

theorem put_of_clear (h : t.Clear place) : t.put place e = ⟨(place, e) :: t.entries⟩ := by
  have hkeep : t.entries.filter (·.1 != place) = t.entries := by
    refine List.filter_eq_self.mpr fun p hp => ?_
    rw [bne_iff_ne]
    intro hc
    exact h p hp (hc ▸ List.prefix_rfl)
  rw [put, hkeep]

/-- Taking a directory away takes its contents with it, whatever they are. -/
theorem erase_graft (t : Tree) (directory : Place) (files : Contents) :
    (t.graft directory files).erase directory = t.erase directory := by
  have hnew : (files.tree.entries.map fun (p, e) => (directory ++ p, e)).filter
      (!directory.isPrefixOf ·.1) = [] := by
    rw [List.filter_eq_nil_iff]
    intro pair hmem
    obtain ⟨q, -, rfl⟩ := List.mem_map.mp hmem
    simp
  have hold : (t.entries.filter (!isBelow directory ·.1)).filter (!directory.isPrefixOf ·.1) =
      t.entries.filter (!directory.isPrefixOf ·.1) := by
    rw [List.filter_filter]
    refine List.filter_congr fun p _ => ?_
    cases hp : directory.isPrefixOf p.1 <;> simp [isBelow, hp]
  rw [erase, graft, List.filter_append, hnew, hold, List.nil_append, erase]

theorem erase_put_of_clear (h : t.Clear place) : (t.put place e).erase place = t := by
  have hkeep : t.entries.filter (!place.isPrefixOf ·.1) = t.entries := by
    refine List.filter_eq_self.mpr fun p hp => ?_
    rw [Bool.not_eq_true', Bool.eq_false_iff, ne_eq, List.isPrefixOf_iff_prefix]
    exact h p hp
  have hself : place.isPrefixOf place = true := List.isPrefixOf_iff_prefix.mpr List.prefix_rfl
  rw [put_of_clear h, erase, List.filter_cons, hself, hkeep]
  rfl

/-- What was below a directory does not matter to new contents. -/
theorem graft_put (h : isBelow directory place) :
    (t.put place e).graft directory files = t.graft directory files := by
  have hkeep : (t.entries.filter (·.1 != place)).filter (!isBelow directory ·.1) =
      t.entries.filter (!isBelow directory ·.1) := by
    rw [List.filter_filter]
    refine List.filter_congr fun p _ => ?_
    by_cases hp : p.1 = place
    · rw [hp, h]; rfl
    · rw [bne_iff_ne.mpr hp, Bool.and_true]
  simp only [graft, put, List.filter_cons, h, Bool.not_true, Bool.false_eq_true, if_false, hkeep]

/-- A new directory with one entry put into it has this entry and no other. -/
theorem below_put (h : t.Clear directory) {rest : Place} (hrest : rest ≠ []) :
    ((t.put directory .directory).put (directory ++ rest) e).below directory = ⟨[(rest, e)]⟩ := by
  have hbelow := isBelow_append directory hrest
  have hnone : (t.put directory .directory).entries.filter (isBelow directory ·.1) = [] := by
    rw [put_of_clear h, List.filter_eq_nil_iff]
    intro p hp
    obtain rfl | hp := List.mem_cons.mp hp
    · rw [isBelow_self]; exact Bool.false_ne_true
    · rw [not_isBelow (h p hp)]; exact Bool.false_ne_true
  -- the entry at the front is below the directory, and nothing of what follows is
  generalize t.put directory .directory = t' at hnone
  have hrest' : (t'.entries.filter (·.1 != directory ++ rest)).filter (isBelow directory ·.1) =
      [] := by
    rw [List.filter_eq_nil_iff] at hnone ⊢
    exact fun p hp => hnone p (List.mem_filter.mp hp).1
  simp [below, put, hbelow, hrest']

end Tree

/-! ## Files by name -/

namespace Contents

variable {files : Contents} {t : Tree} {directory : Place} {name : String} {bytes : List UInt8}

/-- What contents have under a name once they are in a directory of a tree: the bytes of the entry,
or of what a link leads to. -/
inductive Has (files : Contents) (t : Tree) (directory : Place) (name : String) :
    List UInt8 → Prop
  | entry {e : Entry} (found : files.tree.find? [name] = some e) (content : e.isContent) :
      files.Has t directory name e.bytes
  | link {target : String} {place : Place} {e : Entry}
      (found : files.tree.find? [name] = some (.link target))
      (leads : (t.graft directory files).followed directory target = .ok (.found place e))
      (file : !e.isDirectory) : files.Has t directory name e.bytes

theorem Has.isName (h : files.Has t directory name bytes) : IsName name := by
  cases h with
  | entry found _ => exact isName_of_find? found
  | link found _ _ => exact isName_of_find? found

theorem holds_graft_iff :
    (t.graft directory files).Holds directory name bytes ↔ files.Has t directory name bytes := by
  have hfind : (t.graft directory files).find? (directory ++ [name]) = files.tree.find? [name] :=
    Tree.find?_graft_below (List.cons_ne_nil _ _)
  constructor
  · rintro (⟨found, content⟩ | ⟨found, leads, file⟩)
    · exact .entry (hfind.symm.trans found) content
    · exact .link (hfind.symm.trans found) leads file
  · rintro (⟨found, content⟩ | ⟨found, leads, file⟩)
    · exact .entry (hfind.trans found) content
    · exact .link (hfind.trans found) leads file

/-- **Reading a file of new contents.** -/
theorem read_graft_iff (hopen : t.IsOpen directory) (hname : Path.Plain name) (hdots : name ≠ "..")
    (here : Place) :
    (t.graft directory files).read here (Path.render (directory ++ [name])) = .ok bytes ↔
      files.Has t directory name bytes := by
  rw [hopen.graft.read_eq_ok_iff hname hdots, holds_graft_iff]
  exact ⟨fun h => h.2, fun h => ⟨h.isName, h⟩⟩

end Contents

end Files

end Playground
