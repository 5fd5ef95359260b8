import Playground.Diagnostic

/-!
# Lines without line feeds

Text is cut into lines in three ways, and a line feed ends a line in each of them. So no line holds
one, whatever the text is.

* `cut_cons_sep`, `cut_cons_of_ne` — the pieces of a list by its first element.
* `cut_append`, `cut_intercalate` — the pieces on the two sides of a separator, and of a text that
  pieces are joined to.
* `not_mem_of_mem_cut` — no piece holds the separator.
* `Unbroken` — a line that holds no line feed.
* `unbroken_printed`, `unbroken_ofMessage`, `unbroken_ofPayload` — the lines of printed text, of a
  message and of a diagnostic are such lines.
* `lines_ofPayload_ne_nil` — a diagnostic has lines.
-/

set_option autoImplicit false

namespace Playground

namespace Text

/-- A line that holds no line feed. -/
def Unbroken (line : String) : Prop := '\n' ∉ line.toList

instance (line : String) : Decidable (Unbroken line) :=
  inferInstanceAs (Decidable ('\n' ∉ line.toList))

theorem unbroken_ofList {line : List Char} (h : '\n' ∉ line) : Unbroken (String.ofList line) := by
  rw [Unbroken, String.toList_ofList]
  exact h

namespace Lines

section

variable {α : Type} [BEq α] [LawfulBEq α] {sep : α} {xs : List α}

theorem cut_cons_sep (xs : List α) : cut sep (sep :: xs) = [] :: cut sep xs := by
  simp only [cut, List.foldr_cons, beq_self_eq_true, if_true]

/-- Any other element joins the piece that follows. -/
theorem cut_cons_of_ne {x : α} (hx : x ≠ sep) {piece : List α} {others : List (List α)}
    (h : cut sep xs = piece :: others) : cut sep (x :: xs) = (x :: piece) :: others := by
  simp only [cut] at h
  simp only [cut, List.foldr_cons, beq_false_of_ne hx, Bool.false_eq_true, if_false, h]

theorem cut_ne_nil (sep : α) (xs : List α) : cut sep xs ≠ [] := by
  induction xs with
  | nil => exact List.cons_ne_nil _ _
  | cons x xs ih =>
    obtain ⟨piece, others, h⟩ := List.exists_cons_of_ne_nil ih
    by_cases hx : x = sep
    · rw [hx, cut_cons_sep]
      exact List.cons_ne_nil _ _
    · rw [cut_cons_of_ne hx h]
      exact List.cons_ne_nil _ _

theorem cut_of_not_mem (h : sep ∉ xs) : cut sep xs = [xs] := by
  induction xs with
  | nil => rfl
  | cons x xs ih =>
    rw [List.mem_cons, not_or] at h
    exact cut_cons_of_ne (Ne.symm h.1) (ih h.2)

/-- The pieces on the two sides of a separator. -/
theorem cut_append (xs ys : List α) : cut sep (xs ++ sep :: ys) = cut sep xs ++ cut sep ys := by
  induction xs with
  | nil => exact cut_cons_sep ys
  | cons x xs ih =>
    obtain ⟨piece, others, hcut⟩ := List.exists_cons_of_ne_nil (cut_ne_nil sep xs)
    by_cases hx : x = sep
    · rw [hx, List.cons_append, cut_cons_sep, cut_cons_sep, ih, List.cons_append]
    · rw [hcut] at ih
      rw [cut_cons_of_ne hx hcut]
      exact cut_cons_of_ne hx ih

/-- A piece ends at the separator. -/
theorem cut_append_sep (h : sep ∉ xs) (ys : List α) :
    cut sep (xs ++ sep :: ys) = xs :: cut sep ys := by
  rw [cut_append, cut_of_not_mem h, List.singleton_append]

/-- A text that is joined with separators is cut into the pieces of its parts. -/
theorem cut_intercalate_parts {parts : List (List α)} (hne : parts ≠ []) :
    cut sep ([sep].intercalate parts) = parts.flatMap (cut sep) := by
  induction parts with
  | nil => exact absurd rfl hne
  | cons part others ih =>
    cases others with
    | nil => rw [List.intercalate_singleton, List.flatMap_singleton]
    | cons next others =>
      rw [List.intercalate_cons_cons, List.append_assoc, List.singleton_append, cut_append,
        ih (List.cons_ne_nil _ _)]
      rfl

/-- Pieces without the separator are found again in the text that they are joined to. -/
theorem cut_intercalate {pieces : List (List α)} (hne : pieces ≠ [])
    (h : ∀ piece ∈ pieces, sep ∉ piece) : cut sep ([sep].intercalate pieces) = pieces := by
  have hpieces : ∀ piece ∈ pieces, cut sep piece = [piece] := fun piece hpiece =>
    cut_of_not_mem (h piece hpiece)
  rw [cut_intercalate_parts hne, List.flatMap_def, List.map_congr_left hpieces, ← List.flatMap_def,
    List.flatMap_singleton']

/-- **No piece holds the separator.** -/
theorem not_mem_of_mem_cut {piece : List α} (h : piece ∈ cut sep xs) : sep ∉ piece := by
  induction xs generalizing piece with
  | nil =>
    rw [List.mem_singleton.mp h]
    exact List.not_mem_nil
  | cons x xs ih =>
    obtain ⟨first, others, hcut⟩ := List.exists_cons_of_ne_nil (cut_ne_nil sep xs)
    rw [hcut] at ih
    by_cases hx : x = sep
    · rw [hx, cut_cons_sep, hcut] at h
      rcases List.mem_cons.mp h with rfl | h
      · exact List.not_mem_nil
      · exact ih h
    · rw [cut_cons_of_ne hx hcut] at h
      rcases List.mem_cons.mp h with rfl | h
      · -- the first piece grows by an element that is not the separator
        have hfirst := ih List.mem_cons_self
        rw [List.mem_cons, not_or]
        exact ⟨Ne.symm hx, hfirst⟩
      · exact ih (List.mem_cons_of_mem _ h)

end

theorem mem_of_mem_dropReturn {c : Char} {line : List Char} (h : c ∈ dropReturn line) :
    c ∈ line := by
  unfold dropReturn at h
  split at h
  · exact List.dropLast_subset line h
  · exact h

theorem mem_of_mem_dropEmptyEnd {line : List Char} {lines : List (List Char)}
    (h : line ∈ dropEmptyEnd lines) : line ∈ lines := by
  rw [dropEmptyEnd, List.mem_reverse] at h
  exact List.mem_reverse.mp ((List.dropWhile_sublist _).subset h)

/-- The pieces of a text without their carriage returns are lines. -/
theorem not_mem_of_mem_map_dropReturn {line : List Char} {pieces : List (List Char)}
    (hpieces : ∀ piece ∈ pieces, '\n' ∉ piece) (h : line ∈ pieces.map dropReturn) :
    '\n' ∉ line := by
  obtain ⟨piece, hpiece, rfl⟩ := List.mem_map.mp h
  intro hmem
  exact hpieces piece hpiece (mem_of_mem_dropReturn hmem)

/-- **A printed line is one line, and not an empty one.** -/
theorem unbroken_printed {text : List Char} {line : String} (h : line ∈ printed text) :
    line ≠ "" ∧ Unbroken line := by
  obtain ⟨piece, hpiece, rfl⟩ := List.mem_map.mp h
  obtain ⟨hcut, hfull⟩ := List.mem_filter.mp hpiece
  refine ⟨?_, unbroken_ofList (not_mem_of_mem_cut hcut)⟩
  intro hempty
  have hnil : piece = [] := by
    rw [← String.toList_ofList (l := piece), hempty]; rfl
  rw [hnil] at hfull
  cases hfull

/-- **A line of a message is one line.** -/
theorem unbroken_ofMessage {message line : String} (h : line ∈ ofMessage message) :
    Unbroken line := by
  have hpieces : ∀ piece ∈ cut '\n' message.toList, '\n' ∉ piece :=
    fun piece hpiece => not_mem_of_mem_cut hpiece
  have hended : ∀ piece ∈ (cut '\n' message.toList).dropLast.map dropReturn, '\n' ∉ piece :=
    fun piece => not_mem_of_mem_map_dropReturn
      fun piece hpiece => hpieces piece (List.dropLast_subset _ hpiece)
  unfold ofMessage at h
  dsimp only at h
  split at h
  · obtain ⟨piece, hpiece, rfl⟩ := List.mem_map.mp h
    exact unbroken_ofList (hended piece hpiece)
  · obtain ⟨piece, hpiece, rfl⟩ := List.mem_map.mp h
    exact unbroken_ofList (hended piece hpiece)
  · rename_i last _ hlast
    obtain ⟨piece, hpiece, rfl⟩ := List.mem_map.mp h
    refine unbroken_ofList ?_
    rcases List.mem_append.mp hpiece with hpiece | hpiece
    · exact hended piece hpiece
    · rw [List.mem_singleton.mp hpiece]
      exact hpieces last (List.mem_of_getLast? hlast)

end Lines

end Text

open Text

/-- **A line of a diagnostic is one line**, whatever the compiler said. -/
theorem Diagnostic.unbroken_ofPayload {payload line : String}
    (h : line ∈ (ofPayload payload).lines) : Unbroken line := by
  unfold ofPayload at h
  dsimp only at h
  split at h
  · rw [List.mem_singleton.mp h]
    decide +kernel
  · obtain ⟨piece, hpiece, rfl⟩ := List.mem_map.mp h
    refine unbroken_ofList (Lines.not_mem_of_mem_map_dropReturn ?_
      (Lines.mem_of_mem_dropEmptyEnd hpiece))
    exact fun piece hpiece => Lines.not_mem_of_mem_cut hpiece

/-- **A diagnostic has something to say**, whatever the compiler said. -/
theorem Diagnostic.lines_ofPayload_ne_nil (payload : String) :
    (ofPayload payload).lines ≠ [] := by
  unfold ofPayload
  dsimp only
  split
  · exact List.cons_ne_nil _ _
  · rename_i hlines
    intro hnil
    rw [List.map_eq_nil_iff.mp hnil] at hlines
    exact hlines rfl

end Playground
