import Mathlib.Data.List.Nodup
import Mathlib.Data.List.Perm.Subperm
import Playground.Compiler.External
import Playground.Proofs.Files.Contents

/-!
# Directories for single compiles

An external compiler works in a directory that is made for one compile. Nothing has its name before,
so what is in it after the compile was put there in the meantime.

* `find?_scratch` — the search for a new name always finds one.
* `opened` — the tree with the new directory; `isOpen_opened` says that it can be worked in.
* `Ready` — a tree in which the directory and the source can be made; `ready_of_isName` says when
  that is so.
* `write_opened` — writing the source makes a new file.
-/

set_option autoImplicit false

namespace Playground

namespace Compiler

namespace External

open Files Playground.Path

variable {t : Tree}

/-! ## Numbered names -/

/-- The name of a directory with a number. -/
def numbered (n : Nat) : String := "halcyon-" ++ toString n

theorem toList_numbered (n : Nat) :
    (numbered n).toList = "halcyon-".toList ++ Nat.toDigits 10 n := by
  rw [numbered, String.toList_append]
  exact congrArg _ Nat.toList_repr

theorem numbered_injective {m n : Nat} (h : numbered m = numbered n) : m = n := by
  have hdigits : Nat.toDigits 10 m = Nat.toDigits 10 n := by
    have hlists := congrArg String.toList h
    rw [toList_numbered, toList_numbered] at hlists
    exact List.append_cancel_left hlists
  rw [← Nat.ofDigitChars_ten_toDigits (n := m), hdigits, Nat.ofDigitChars_ten_toDigits]

/-- Neither the words nor the digits of the name mean anything in a path. -/
theorem not_mem_numbered {c : Char} (hword : c ∉ "halcyon-".toList) (hdigit : c.isDigit = false)
    (n : Nat) : c ∉ (numbered n).toList := by
  rw [toList_numbered, List.mem_append, not_or]
  refine ⟨hword, fun h => ?_⟩
  rw [Nat.isDigit_of_mem_toDigits (by decide) (by decide) h] at hdigit
  cases hdigit

theorem numbered_ne {name : String} (hfirst : name.toList.head? ≠ some 'h') (n : Nat) :
    numbered n ≠ name := by
  rintro rfl
  rw [toList_numbered] at hfirst
  exact hfirst rfl

theorem plain_numbered (n : Nat) : Plain (numbered n) :=
  ⟨numbered_ne (by decide) n, not_mem_numbered (by decide) (by decide) n⟩

theorem isName_numbered {n : Nat} (h : (numbered n).utf8ByteSize ≤ Tree.longestName) :
    IsName (numbered n) :=
  ⟨plain_numbered n, numbered_ne (by decide) n, numbered_ne (by decide) n,
    not_mem_numbered (by decide) (by decide) n, h⟩

/-! ## A new name -/

theorem freshName_eq_numbered (t : Tree) (tries : Nat) :
    ∀ n, ∃ k, freshName t n tries = numbered k := by
  induction tries with
  | zero => intro n; exact ⟨n, rfl⟩
  | succ tries ih =>
    intro n
    rw [freshName]
    split
    · exact ⟨n, rfl⟩
    · exact ih (n + 1)

/-- The search comes to a name that is taken only if all of its names are. -/
theorem taken_of_freshName (tries : Nat) : ∀ {n : Nat},
    (t.find? (scratchParent ++ [freshName t n tries])).isSome →
      ∀ k, k ≤ tries → (t.find? (scratchParent ++ [numbered (n + k)])).isSome := by
  induction tries with
  | zero =>
    intro n h k hk
    obtain rfl : k = 0 := Nat.le_zero.mp hk
    exact h
  | succ tries ih =>
    intro n h k hk
    rw [freshName] at h
    split at h
    · rename_i hfree
      rw [Option.isNone_iff_eq_none] at hfree
      rw [hfree] at h
      cases h
    · rename_i htaken
      cases k with
      | zero =>
        exact Option.isSome_iff_ne_none.mpr fun hc => htaken (Option.isNone_iff_eq_none.mpr hc)
      | succ k =>
        have hnext := ih h k (Nat.le_of_succ_le_succ hk)
        rw [Nat.add_assoc, Nat.add_comm 1 k] at hnext
        exact hnext

/-- **The search for a new name finds one**: there are more names than entries. -/
theorem find?_scratch (t : Tree) : t.find? (scratch t) = none := by
  rw [← Option.not_isSome_iff_eq_none]
  intro htaken
  have hall := taken_of_freshName t.entries.length htaken
  let places := (List.range (t.entries.length + 1)).map fun k => scratchParent ++ [numbered (0 + k)]
  have hnodup : places.Nodup := by
    refine List.nodup_range.map fun m n h => ?_
    have hnames := List.append_cancel_left h
    rw [Nat.zero_add, Nat.zero_add] at hnames
    exact numbered_injective (List.cons.inj hnames).1
  have hsub : places ⊆ t.entries.map (·.1) := by
    intro place hmem
    obtain ⟨k, hk, rfl⟩ := List.mem_map.mp hmem
    have hsome := hall k (Nat.lt_succ_iff.mp (List.mem_range.mp hk))
    rw [Tree.find?_append_singleton, List.lookup_isSome_iff] at hsome
    obtain ⟨p, hp, heq⟩ := hsome
    exact List.mem_map.mpr ⟨p, hp, (eq_of_beq heq).symm⟩
  have hlength := (List.subperm_of_subset hnodup hsub).length_le
  rw [List.length_map, List.length_map, List.length_range] at hlength
  omega

/-! ## Making the directory -/

theorem isName_tmp : IsName "tmp" := by decide

theorem plain_scratch (t : Tree) : ∀ name ∈ scratch t, Plain name := by
  intro name hname
  obtain ⟨k, hk⟩ := freshName_eq_numbered t t.entries.length 0
  rw [scratch, hk] at hname
  obtain hname | hname := List.mem_append.mp hname
  · rw [List.mem_singleton.mp hname]
    exact isName_tmp.plain
  · rw [List.mem_singleton.mp hname]
    exact plain_numbered k

/-- The path of a file of a compile. -/
theorem pathIn_scratch (t : Tree) {name : String} (h : Plain name) :
    pathIn (scratch t) name = render (scratch t ++ [name]) :=
  join_render (plain_scratch t) h

/-- The tree with the directory of the next compile. -/
def opened (t : Tree) : Tree := t.put (scratch t) .directory

theorem find?_opened_tmp (h : t.find? scratchParent = some .directory) :
    (opened t).find? scratchParent = some .directory := by
  rw [opened, Tree.find?_put_of_ne, h]
  rw [scratch]
  simp

theorem find?_opened_scratch (t : Tree) : (opened t).find? (scratch t) = some .directory :=
  Tree.find?_put_self (by simp [scratch])

/-- The new directory can be worked in, unless its name is too long. -/
theorem isOpen_opened (hparent : t.find? scratchParent = some .directory)
    (hshort : (freshName t 0 t.entries.length).utf8ByteSize ≤ Tree.longestName) :
    (opened t).IsOpen (scratch t) := by
  obtain ⟨k, hk⟩ := freshName_eq_numbered t t.entries.length 0
  refine ⟨?_, ?_, by simp [scratch], ?_⟩
  · intro name hname
    rw [scratch, hk] at hname
    obtain hname | hname := List.mem_append.mp hname
    · rw [List.mem_singleton.mp hname]
      exact isName_tmp
    · rw [List.mem_singleton.mp hname]
      exact isName_numbered (hk ▸ hshort)
  · intro p hp
    -- the places on the way are the root, the parent and the directory itself
    have hway : p <+: ["tmp", freshName t 0 t.entries.length] := hp
    obtain rfl | ⟨rest, rfl, hrest⟩ := List.prefix_cons_iff.mp hway
    · exact Tree.find?_nil _
    · obtain rfl | ⟨rest, rfl, hend⟩ := List.prefix_cons_iff.mp hrest
      · exact find?_opened_tmp hparent
      · rw [List.prefix_nil.mp hend]
        exact find?_opened_scratch t
  · have hsize : (render (scratch t)).utf8ByteSize =
        4 + (1 + (freshName t 0 t.entries.length).utf8ByteSize) :=
      utf8ByteSize_render_append (List.cons_ne_nil "tmp" []) _
    rw [hsize]
    rw [Tree.longestName] at hshort ⊢
    rw [Tree.pathBound]
    omega

/-- In a directory whose name is too long nothing can be written. -/
theorem short_of_write (hparent : t.find? scratchParent = some .directory) {name : String}
    (hname : Plain name) {bytes : List UInt8} {t' : Tree}
    (hwrite : (opened t).write (scratch t) (pathIn (scratch t) name) bytes = .ok t') :
    (freshName t 0 t.entries.length).utf8ByteSize ≤ Tree.longestName := by
  obtain ⟨k, hk⟩ := freshName_eq_numbered t t.entries.length 0
  refine Nat.not_lt.mp fun hlong => ?_
  have hplain : ∀ n ∈ scratch t ++ [name], Plain n := by
    intro n hn
    obtain hn | hn := List.mem_append.mp hn
    · exact plain_scratch t n hn
    · rw [List.mem_singleton.mp hn]
      exact hname
  have htmp : (opened t).find? ([] ++ ["tmp"]) = some .directory := find?_opened_tmp hparent
  have hnames : scratch t ++ [name] = ["tmp", numbered k, name] := by
    rw [scratch, hk]
    rfl
  have hwalk : (opened t).walk true Tree.linkLimit [] (scratch t ++ [name]) =
      .error .nameTooLong := by
    rw [hnames, Tree.walk_directory isName_tmp htmp]
    exact Tree.walk_tooLong (numbered_ne (by decide) k) (numbered_ne (by decide) k) (hk ▸ hlong)
  have hlocate : ∃ e, (opened t).locate true (scratch t) (render (scratch t ++ [name])) =
      .error e := by
    rw [Tree.locate_eq hplain, hwalk]
    split
    · exact ⟨_, rfl⟩
    · split
      · exact ⟨_, rfl⟩
      · exact ⟨_, rfl⟩
  obtain ⟨e, he⟩ := hlocate
  rw [pathIn_scratch t hname, Tree.write_eq _ _ (endsInSlash_render _ hname), he] at hwrite
  cases hwrite

/-! ## Writing the source -/

/-- The directory and the source of a compile can be made, and every entry is in a directory. -/
structure Ready (x : External) (t : Tree) : Prop where
  wellFormed : t.WellFormed
  parent : t.find? scratchParent = some .directory
  writable : ∀ bytes, ∃ t',
    (opened t).write (scratch t) (pathIn (scratch t) x.config.sourceName) bytes = .ok t'

namespace Ready

variable {x : External}

theorem clear (h : x.Ready t) : t.Clear (scratch t) :=
  Tree.clear_of_find?_none h.wellFormed (find?_scratch t)

theorem isOpen (h : x.Ready t) (hsource : Plain x.config.sourceName) :
    (opened t).IsOpen (scratch t) := by
  obtain ⟨t', hwrite⟩ := h.writable []
  exact isOpen_opened h.parent (short_of_write h.parent hsource hwrite)

/-- Only what can be the name of a file is the name of the source. -/
theorem isName_source (h : x.Ready t) (hsource : Plain x.config.sourceName)
    (hdots : x.config.sourceName ≠ "..") : IsName x.config.sourceName := by
  obtain ⟨t', hwrite⟩ := h.writable []
  rw [pathIn_scratch t hsource] at hwrite
  exact (h.isOpen hsource).isName_of_write hsource hdots hwrite

end Ready

theorem find?_opened_below (h : t.WellFormed) {rest : Place} (hrest : rest ≠ []) :
    (opened t).find? (scratch t ++ rest) = none := by
  have hne : scratch t ++ rest ≠ scratch t := fun hc => hrest (List.append_right_eq_self.mp hc)
  rw [opened, Tree.find?_put_of_ne hne]
  exact h.find?_below rest (find?_scratch t)

/-- Writing the source makes a new file. -/
theorem write_opened (hopen : (opened t).IsOpen (scratch t)) (hwf : t.WellFormed) {name : String}
    (hname : IsName name) (bytes : List UInt8) :
    (opened t).write (scratch t) (pathIn (scratch t) name) bytes =
      .ok ((opened t).put (scratch t ++ [name]) (.file bytes false)) := by
  rw [pathIn_scratch t hname.plain]
  exact hopen.write_new hname (find?_opened_below hwf (List.cons_ne_nil _ _)) _ bytes

/-- What makes a tree ready for compiles. -/
theorem ready_of_isName {x : External} (hwf : t.WellFormed)
    (hparent : t.find? scratchParent = some .directory)
    (hshort : (freshName t 0 t.entries.length).utf8ByteSize ≤ Tree.longestName)
    (hname : IsName x.config.sourceName) : x.Ready t :=
  ⟨hwf, hparent, fun bytes => ⟨_, write_opened (isOpen_opened hparent hshort) hwf hname bytes⟩⟩

end External

end Compiler

end Playground
