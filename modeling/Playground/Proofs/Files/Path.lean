import Playground.Files.Path
import Playground.Proofs.Text.Lines

/-!
# Paths of places

A place is a list of names, and its path has a slash in front of each. As long as no name is empty
or holds a slash, the path tells the place.

* `Plain` — a name that can be told from the path that it is in.
* `components_render` — the names of the path of a place are those of the place.
* `join_render` — the path of a name below a place is that of the place with the name behind it.
* `resolve_join` — a name below a directory leads one step on from where the directory is, whatever
  dots and slashes the path of the directory holds.
-/

set_option autoImplicit false

namespace Playground

namespace Path

/-- A name that can be told from the path that it is in. -/
structure Plain (name : String) : Prop where
  nonempty : name ≠ ""
  no_slash : '/' ∉ name.toList

variable {place : List String} {name : String}

instance : Decidable (Plain name) :=
  decidable_of_iff (name ≠ "" ∧ '/' ∉ name.toList)
    ⟨fun h => ⟨h.1, h.2⟩, fun h => ⟨h.nonempty, h.no_slash⟩⟩

theorem Plain.toList_ne_nil (h : Plain name) : name.toList ≠ [] := by
  rw [ne_eq, String.toList_eq_nil_iff]
  exact h.nonempty

/-! ## The characters of a path -/

theorem render_of_ne_nil (h : place ≠ []) : render place = String.join (place.map ("/" ++ ·)) := by
  rw [render, if_neg (by rw [List.isEmpty_iff]; exact h)]

theorem render_singleton (name : String) : render [name] = "/" ++ name := by
  rw [render_of_ne_nil (List.cons_ne_nil _ _), List.map_singleton, String.join_cons,
    String.join_nil, String.append_empty]

/-- A name below a place that is not the root. -/
theorem render_append (h : place ≠ []) (name : String) :
    render (place ++ [name]) = render place ++ ("/" ++ name) := by
  rw [render_of_ne_nil h, render_of_ne_nil (by simp), List.map_append, String.join_append,
    List.map_singleton, String.join_cons, String.join_nil, String.append_empty]

/-- The characters of the path of a place that is not the root. -/
theorem toList_render (h : place ≠ []) :
    (render place).toList = place.flatMap fun name => '/' :: name.toList := by
  rw [render_of_ne_nil h, String.toList_join, List.flatMap_map]
  simp only [String.toList_append]
  rfl

theorem mem_toList_render {c : Char} (h : place ≠ []) :
    c ∈ (render place).toList ↔ ∃ name ∈ place, c = '/' ∨ c ∈ name.toList := by
  rw [toList_render h, List.mem_flatMap]
  simp only [List.mem_cons]

theorem isAbsolute_render (place : List String) : isAbsolute (render place) = true := by
  cases place with
  | nil => rfl
  | cons name rest =>
    rw [isAbsolute, toList_render (List.cons_ne_nil _ _)]
    simp

theorem render_ne_empty (place : List String) : render place ≠ "" := by
  intro hempty
  have habsolute := isAbsolute_render place
  rw [hempty] at habsolute
  cases habsolute

theorem isAbsolute_of_plain (h : Plain name) : isAbsolute name = false := by
  have hne : name.toList.head? ≠ some '/' := fun hc => h.no_slash (List.mem_of_mem_head? hc)
  rw [isAbsolute, decide_eq_false hne]

/-- The path of a place ends with its last name. -/
theorem endsInSlash_render (place : List String) (h : Plain name) :
    endsInSlash (render (place ++ [name])) = false := by
  have hne : place ++ [name] ≠ [] := by simp
  have hlast : (render (place ++ [name])).toList.getLast? = name.toList.getLast? := by
    rw [toList_render hne, List.flatMap_append, List.flatMap_singleton, List.getLast?_append,
      List.getLast?_cons, List.getLast?_eq_some_getLast h.toList_ne_nil]
    rfl
  have hnot : name.toList.getLast? ≠ some '/' := fun hc => h.no_slash (List.mem_of_mem_getLast? hc)
  rw [endsInSlash, hlast, decide_eq_false hnot]

/-- The length of a path: a slash and the name, for each name. -/
theorem utf8ByteSize_render_append (h : place ≠ []) (name : String) :
    (render (place ++ [name])).utf8ByteSize =
      (render place).utf8ByteSize + (1 + name.utf8ByteSize) := by
  have hslash : "/".utf8ByteSize = 1 := rfl
  rw [render_append h, String.utf8ByteSize_append, String.utf8ByteSize_append, hslash]

/-- A name that is repeated adds the same again and again. -/
theorem utf8ByteSize_render_replicate (h : place ≠ []) (n : Nat) (name : String) :
    (render (place ++ List.replicate n name)).utf8ByteSize =
      (render place).utf8ByteSize + n * (1 + name.utf8ByteSize) := by
  induction n with
  | zero => rw [List.replicate_zero, List.append_nil, Nat.zero_mul, Nat.add_zero]
  | succ n ih =>
    rw [List.replicate_succ', ← List.append_assoc,
      utf8ByteSize_render_append (List.append_ne_nil_of_left_ne_nil h _), ih, Nat.succ_mul,
      Nat.add_assoc]

/-! ## The names of a path -/

theorem cut_toList_render (h : ∀ name ∈ place, Plain name) :
    Text.Lines.cut '/' (place.flatMap fun name => '/' :: name.toList) =
      [] :: place.map String.toList := by
  induction place with
  | nil => rfl
  | cons name rest ih =>
    have hname := h name List.mem_cons_self
    have hrest := ih fun n hn => h n (List.mem_cons_of_mem _ hn)
    rw [List.flatMap_cons, List.cons_append, Text.Lines.cut_cons_sep, List.map_cons]
    cases rest with
    | nil =>
      rw [List.flatMap_nil, List.append_nil, Text.Lines.cut_of_not_mem hname.no_slash]
      rfl
    | cons next others =>
      -- the next name brings the slash that ends this one
      rw [List.flatMap_cons, List.cons_append, Text.Lines.cut_cons_sep] at hrest
      rw [List.flatMap_cons, List.cons_append, Text.Lines.cut_append_sep hname.no_slash,
        (List.cons.inj hrest).2]

/-- No name is dropped for being empty. -/
theorem filter_toList (h : ∀ name ∈ place, Plain name) :
    (place.map String.toList).filter (!·.isEmpty) = place.map String.toList := by
  rw [List.filter_eq_self]
  intro chars hmem
  obtain ⟨n, hn, rfl⟩ := List.mem_map.mp hmem
  simp [h n hn |>.nonempty]

/-- **The path of a place names what the place does.** -/
theorem components_render (h : ∀ name ∈ place, Plain name) : components (render place) = place := by
  cases place with
  | nil => rfl
  | cons name rest =>
    have hne : name :: rest ≠ [] := List.cons_ne_nil _ _
    rw [components, toList_render hne, cut_toList_render h, List.filter_cons_of_neg (by simp),
      filter_toList h, List.map_map]
    simp

/-- No slash at the end of the path of a place asks for a directory. -/
theorem strictComponents_render (h : ∀ n ∈ place ++ [name], Plain n) :
    strictComponents (render (place ++ [name])) = place ++ [name] := by
  rw [strictComponents, endsInSlash_render place (h name (by simp)), if_neg Bool.false_ne_true,
    components_render h]

/-- **The path of a name below a place.** -/
theorem join_render (h : ∀ n ∈ place, Plain n) (hname : Plain name) :
    join (render place) name = render (place ++ [name]) := by
  rw [join, isAbsolute_of_plain hname, if_neg Bool.false_ne_true]
  rcases List.eq_nil_or_concat place with rfl | ⟨front, last, rfl⟩
  · rw [List.nil_append, render_singleton]
    exact if_pos rfl
  · rw [List.concat_eq_append] at h ⊢
    have hne : front ++ [last] ≠ [] := by simp
    rw [endsInSlash_render front (h last (by simp)), if_neg Bool.false_ne_true,
      render_append hne, String.append_assoc]

/-! ## A name below any directory -/

variable {directory : String}

/-- The path of a directory is not empty, so that the slash behind it does not start a path. -/
theorem isAbsolute_join (h : Plain name) (hne : directory ≠ "") :
    isAbsolute (join directory name) = isAbsolute directory := by
  obtain ⟨c, rest, hchars⟩ : ∃ c rest, directory.toList = c :: rest :=
    List.exists_cons_of_ne_nil fun hnil => hne (String.toList_eq_nil_iff.mp hnil)
  rw [join, isAbsolute_of_plain h, if_neg Bool.false_ne_true]
  split
  · rw [isAbsolute, isAbsolute, String.toList_append, hchars]
    rfl
  · rw [isAbsolute, isAbsolute, String.toList_append, String.toList_append, hchars]
    rfl

/-- The names of a path with a slash and a name behind it. -/
theorem components_append_name (front : List Char) (h : Plain name) :
    ((Text.Lines.cut '/' (front ++ '/' :: name.toList)).filter (!·.isEmpty)).map String.ofList =
      ((Text.Lines.cut '/' front).filter (!·.isEmpty)).map String.ofList ++ [name] := by
  have hfull : [name.toList].filter (!·.isEmpty) = [name.toList] := by simp [h.nonempty]
  rw [Text.Lines.cut_append, Text.Lines.cut_of_not_mem h.no_slash, List.filter_append, hfull,
    List.map_append, List.map_singleton, String.ofList_toList]

theorem components_join (h : Plain name) (directory : String) :
    components (join directory name) = components directory ++ [name] := by
  rw [join, isAbsolute_of_plain h, if_neg Bool.false_ne_true]
  split
  · rename_i hslash
    -- the slash at the end stands in front of the name, and names nothing by itself
    have hlast : directory.toList.getLast? = some '/' := by simpa [endsInSlash] using hslash
    obtain ⟨front, hchars⟩ := List.getLast?_eq_some_iff.mp hlast
    have hfront : components directory =
        ((Text.Lines.cut '/' front).filter (!·.isEmpty)).map String.ofList := by
      have hcut : Text.Lines.cut '/' (front ++ ['/']) = Text.Lines.cut '/' front ++ [[]] :=
        Text.Lines.cut_append front []
      rw [components, hchars, hcut, List.filter_append]
      simp
    rw [hfront, components, String.toList_append, hchars, List.append_assoc, List.singleton_append,
      components_append_name front h]
  · have hchars : (directory ++ "/" ++ name).toList = directory.toList ++ '/' :: name.toList := by
      simp
    rw [components, hchars, components_append_name _ h]
    rfl

/-- **A name below a directory leads one step on.** -/
theorem resolve_join (here : List String) (h : Plain name) (hne : directory ≠ "") :
    resolve here (join directory name) = step (resolve here directory) name := by
  rw [resolve, resolve, isAbsolute_join h hne, components_join h, List.foldl_append]
  rfl

theorem step_dot (place : List String) : step place "." = place := if_pos rfl

theorem step_of_ne (place : List String) (hdot : name ≠ ".") (hdots : name ≠ "..") :
    step place name = place ++ [name] := by
  rw [step, if_neg hdot, if_neg hdots]

end Path

end Playground
