import Mathlib.Data.List.DropRight
import Playground.Proofs.Text.Lines

/-!
# The normal form of diagnostics

A diagnostic is read off a payload: the payload is cut at its line feeds, each piece loses one
carriage return at its end, and the empty lines at the end are dropped.

* `Normal` — what holds of every diagnostic, whatever the payload was.
* `normal_form` — and a diagnostic in normal form none of whose lines ends in a carriage return is
  read back from its text; no other diagnostic is.
* `line_ends_ignored` — neither carriage returns in front of the line feeds of a payload nor line
  feeds at its end change the diagnostic.
-/

set_option autoImplicit false

namespace Playground

open Text

/-! ## Lines and their ends -/

namespace Text.Lines

/-- A line is kept as it is exactly if no carriage return ends it. -/
theorem dropReturn_eq_self_iff {line : List Char} :
    dropReturn line = line ↔ line.getLast? ≠ some '\r' := by
  unfold dropReturn
  split
  · rename_i hlast
    have hne : line ≠ [] := by rintro rfl; cases hlast
    have hlength : 0 < line.length := List.length_pos_iff.mpr hne
    constructor
    · intro h
      have := congrArg List.length h
      rw [List.length_dropLast] at this
      omega
    · exact fun h => absurd hlast h
  · rename_i hlast
    exact ⟨fun _ => hlast, fun _ => rfl⟩

theorem dropReturn_cons_of_ne {c : Char} (hc : c ≠ '\r') (line : List Char) :
    dropReturn (c :: line) = c :: dropReturn line := by
  cases line with
  | nil => exact if_neg (by simpa using hc)
  | cons d line =>
    unfold dropReturn
    rw [List.getLast?_cons_cons, List.dropLast_cons_cons]
    split <;> rfl

theorem dropEmptyEnd_eq (lines : List (List Char)) :
    dropEmptyEnd lines = lines.rdropWhile (·.isEmpty) := rfl

theorem dropEmptyEnd_append_nil (lines : List (List Char)) :
    dropEmptyEnd (lines ++ [[]]) = dropEmptyEnd lines :=
  List.rdropWhile_concat_pos _ lines [] rfl

theorem getLast?_dropEmptyEnd (lines : List (List Char)) :
    (dropEmptyEnd lines).getLast? ≠ some [] := by
  intro hlast
  have hne : dropEmptyEnd lines ≠ [] := by intro hnil; rw [hnil] at hlast; cases hlast
  have hfull : ¬ ((dropEmptyEnd lines).getLast hne).isEmpty = true :=
    List.rdropWhile_last_not _ lines hne
  rw [List.getLast?_eq_some_getLast hne, Option.some_inj] at hlast
  rw [hlast] at hfull
  exact hfull rfl

theorem dropEmptyEnd_of_getLast?_ne {lines : List (List Char)} (h : lines.getLast? ≠ some []) :
    dropEmptyEnd lines = lines := by
  rw [dropEmptyEnd_eq, List.rdropWhile_eq_self_iff]
  intro hne hempty
  apply h
  rw [List.getLast?_eq_some_getLast hne, List.isEmpty_iff.mp hempty]

/-- Nothing is changed by both steps only if nothing is changed by either. -/
theorem map_dropReturn_of_dropEmptyEnd {lines : List (List Char)}
    (h : dropEmptyEnd (lines.map dropReturn) = lines) : lines.map dropReturn = lines := by
  have hfront : lines <+: lines.map dropReturn := by
    have := List.rdropWhile_prefix (·.isEmpty) (lines.map dropReturn)
    rwa [← dropEmptyEnd_eq, h] at this
  exact (hfront.eq_of_length (List.length_map _).symm).symm

end Text.Lines

namespace Diagnostic

open Lines

/-- The lines of a payload, before it is known whether they say anything. -/
def payloadLines (payload : List Char) : List (List Char) :=
  dropEmptyEnd ((cut '\n' payload).map dropReturn)

theorem ofPayload_eq (payload : String) :
    ofPayload payload =
      if (payloadLines payload.toList).all isBlank then unexplained
      else ⟨(payloadLines payload.toList).map String.ofList⟩ := rfl

/-- A payload explains nothing, or its lines are the diagnostic. -/
theorem ofPayload_cases (payload : String) :
    (ofPayload payload = unexplained ∧ ∀ line ∈ payloadLines payload.toList, isBlank line) ∨
      ((ofPayload payload).lines = (payloadLines payload.toList).map String.ofList ∧
        ∃ line ∈ payloadLines payload.toList, ∃ c ∈ line, isSpace c = false) := by
  rw [ofPayload_eq]
  split
  · rename_i hblank
    exact .inl ⟨rfl, List.all_eq_true.mp hblank⟩
  · rename_i hsaid
    rw [Bool.not_eq_true, List.all_eq_false] at hsaid
    obtain ⟨line, hline, hblank⟩ := hsaid
    rw [Bool.not_eq_true, isBlank, List.all_eq_false] at hblank
    obtain ⟨c, hc, hspace⟩ := hblank
    exact .inr ⟨rfl, line, hline, c, hc, Bool.eq_false_iff.mpr hspace⟩

theorem ofPayload_congr {p q : String} (h : payloadLines p.toList = payloadLines q.toList) :
    ofPayload p = ofPayload q := by
  rw [ofPayload_eq, ofPayload_eq, h]

/-! ## Normal form -/

/-- What holds of every diagnostic that is read off a payload. -/
structure Normal (d : Diagnostic) : Prop where
  nonempty : d.lines ≠ []
  /-- No line holds a line feed. -/
  unbroken : ∀ line ∈ d.lines, Unbroken line
  /-- The last line is not the empty one; it may be a line of spaces. -/
  ended : d.lines.getLast? ≠ some ""
  /-- Some line has something to read. -/
  spoken : ∃ line ∈ d.lines, ∃ c ∈ line.toList, isSpace c = false

theorem normal_unexplained : Normal unexplained where
  nonempty := List.cons_ne_nil _ _
  unbroken := by decide +kernel
  ended := by decide
  spoken := ⟨_, List.mem_singleton.mpr rfl, 'c', by decide, by decide⟩

/-- **Every payload gives a diagnostic in normal form.** -/
theorem normal_ofPayload (payload : String) : Normal (ofPayload payload) := by
  rcases ofPayload_cases payload with ⟨hnothing, -⟩ | ⟨hlines, line, hline, c, hc, hspace⟩
  · rw [hnothing]
    exact normal_unexplained
  · refine ⟨lines_ofPayload_ne_nil payload, fun line => unbroken_ofPayload, ?_, ?_⟩
    · rw [hlines, List.getLast?_map]
      intro hlast
      obtain ⟨last, hmem, hempty⟩ := Option.map_eq_some_iff.mp hlast
      obtain rfl : last = [] := by simpa using congrArg String.toList hempty
      exact getLast?_dropEmptyEnd _ hmem
    · rw [hlines]
      refine ⟨String.ofList line, List.mem_map_of_mem hline, c, ?_, hspace⟩
      rwa [String.toList_ofList]

/-- The text of a diagnostic is cut into its lines. -/
theorem cut_display {d : Diagnostic} (h : Normal d) :
    cut '\n' d.display.toList = d.lines.map String.toList := by
  rw [display, String.toList_intercalate]
  apply cut_intercalate
  · simpa using h.nonempty
  · intro piece hpiece
    obtain ⟨line, hline, rfl⟩ := List.mem_map.mp hpiece
    exact h.unbroken line hline

/-- A diagnostic in normal form is read back if its lines are. -/
theorem ofPayload_of_payloadLines {d : Diagnostic} {payload : String} (h : Normal d)
    (hlines : payloadLines payload.toList = d.lines.map String.toList) :
    ofPayload payload = d := by
  rcases ofPayload_cases payload with ⟨-, hblank⟩ | ⟨hkept, -⟩
  · -- the line that has something to read is not blank
    obtain ⟨line, hline, c, hc, hspace⟩ := h.spoken
    rw [hlines] at hblank
    have hblank := List.all_eq_true.mp (hblank line.toList (List.mem_map_of_mem hline)) c hc
    rw [hspace] at hblank
    cases hblank
  · have hback : (d.lines.map String.toList).map String.ofList = d.lines := by
      simp [List.map_map, Function.comp_def]
    rw [hlines, hback] at hkept
    exact congrArg Diagnostic.mk hkept

/-- What is read back from the text of a diagnostic. -/
theorem ofPayload_display {d : Diagnostic} (h : Normal d)
    (hreturn : ∀ line ∈ d.lines, line.toList.getLast? ≠ some '\r') : ofPayload d.display = d := by
  have hkept : (d.lines.map String.toList).map dropReturn = d.lines.map String.toList := by
    rw [List.map_map, List.map_inj_left]
    exact fun line hline => dropReturn_eq_self_iff.mpr (hreturn line hline)
  have hended : (d.lines.map String.toList).getLast? ≠ some [] := by
    rw [List.getLast?_map]
    intro hlast
    obtain ⟨line, hline, hempty⟩ := Option.map_eq_some_iff.mp hlast
    rw [String.toList_eq_nil_iff.mp hempty] at hline
    exact h.ended hline
  apply ofPayload_of_payloadLines h
  rw [payloadLines, cut_display h, hkept, dropEmptyEnd_of_getLast?_ne hended]

/-- A line that ends in a carriage return is not read back. -/
theorem getLast?_ne_return_of_ofPayload_display {d : Diagnostic} (h : ofPayload d.display = d) :
    ∀ line ∈ d.lines, line.toList.getLast? ≠ some '\r' := by
  have hnormal : Normal d := h ▸ normal_ofPayload d.display
  rcases ofPayload_cases d.display with ⟨hnothing, -⟩ | ⟨hlines, -⟩
  · rw [← h, hnothing]
    decide +kernel
  · have hsame : d.lines.map String.toList = payloadLines d.display.toList := by
      rw [← congrArg Diagnostic.lines h, hlines, List.map_map]
      simp [Function.comp_def]
    rw [payloadLines, cut_display hnormal] at hsame
    have hkept := map_dropReturn_of_dropEmptyEnd hsame.symm
    rw [List.map_map, List.map_inj_left] at hkept
    exact fun line hline => dropReturn_eq_self_iff.mp (hkept line hline)

/-- **Diagnostics have a normal form, and reading undoes writing on it.** Every payload gives a
diagnostic in normal form; and exactly those diagnostics in normal form none of whose lines ends in
a carriage return are read back from their own text. -/
theorem normal_form :
    (∀ payload, Normal (ofPayload payload)) ∧
      ∀ d : Diagnostic, ofPayload d.display = d ↔
        Normal d ∧ ∀ line ∈ d.lines, line.toList.getLast? ≠ some '\r' := by
  refine ⟨normal_ofPayload, fun d => ⟨fun h => ?_, fun h => ofPayload_display h.1 h.2⟩⟩
  exact ⟨h ▸ normal_ofPayload d.display, getLast?_ne_return_of_ofPayload_display h⟩

/-- A line of spaces at the end stays; the empty lines behind it do not. -/
example : (ofPayload "error\r\n\n  \n\r\n").lines = ["error", "", "  "] := by decide +kernel

/-! ## Line ends -/

/-- A line feed with a carriage return in front of it; any other character as it is. -/
def returned (c : Char) : List Char := if c = '\n' then ['\r', '\n'] else [c]

/-- The text with a carriage return in front of each line feed. -/
def withReturns (text : String) : String := String.ofList (text.toList.flatMap returned)

/-- That many line feeds. -/
def feeds (n : Nat) : String := String.ofList (List.replicate n '\n')

/-- The pieces are the same up to their carriage returns. The last piece gets none, since no line
feed ends it. -/
theorem map_dropReturn_cut_returns {text : List Char} (h : '\r' ∉ text) :
    (cut '\n' (text.flatMap returned)).map dropReturn = (cut '\n' text).map dropReturn := by
  induction text with
  | nil => rfl
  | cons c text ih =>
    rw [List.mem_cons, not_or] at h
    have hrest := ih h.2
    rw [List.flatMap_cons, returned]
    generalize text.flatMap returned = rest at hrest ⊢
    by_cases hc : c = '\n'
    · -- an empty piece becomes a lone carriage return
      have hreturn : '\n' ∉ ['\r'] := by decide
      rw [if_pos hc, hc, List.cons_append, List.singleton_append, cut_cons_sep,
        ← List.singleton_append, cut_append_sep hreturn, List.map_cons, List.map_cons, hrest]
      rfl
    · obtain ⟨piece, others, hcut⟩ := List.exists_cons_of_ne_nil (cut_ne_nil '\n' text)
      obtain ⟨piece', others', hcut'⟩ := List.exists_cons_of_ne_nil (cut_ne_nil '\n' rest)
      rw [hcut, hcut', List.map_cons, List.map_cons, List.cons.injEq] at hrest
      rw [if_neg hc, List.singleton_append, cut_cons_of_ne hc hcut, cut_cons_of_ne hc hcut',
        List.map_cons, List.map_cons, dropReturn_cons_of_ne (Ne.symm h.1),
        dropReturn_cons_of_ne (Ne.symm h.1), hrest.1, hrest.2]

theorem ofPayload_withReturns {payload : String} (h : '\r' ∉ payload.toList) :
    ofPayload (withReturns payload) = ofPayload payload := by
  apply ofPayload_congr
  rw [payloadLines, payloadLines, withReturns, String.toList_ofList, map_dropReturn_cut_returns h]

/-- A line feed at the end opens a line that is empty, and empty lines at the end are dropped. -/
theorem payloadLines_append_feed (text : List Char) :
    payloadLines (text ++ ['\n']) = payloadLines text := by
  have hcut : cut '\n' (text ++ ['\n']) = cut '\n' text ++ [[]] := cut_append text []
  rw [payloadLines, hcut, List.map_append]
  exact dropEmptyEnd_append_nil _

theorem ofPayload_append_feeds (payload : String) (n : Nat) :
    ofPayload (payload ++ feeds n) = ofPayload payload := by
  apply ofPayload_congr
  rw [String.toList_append, feeds, String.toList_ofList]
  induction n with
  | zero => rw [List.replicate_zero, List.append_nil]
  | succ n ih => rw [List.replicate_succ', ← List.append_assoc, payloadLines_append_feed, ih]

/-- **A diagnostic does not depend on how lines are ended.** -/
theorem line_ends_ignored :
    (∀ payload : String, '\r' ∉ payload.toList →
      ofPayload (withReturns payload) = ofPayload payload) ∧
    ∀ (payload : String) (n : Nat), ofPayload (payload ++ feeds n) = ofPayload payload :=
  ⟨fun _ => ofPayload_withReturns, ofPayload_append_feeds⟩

/-- An empty line between two others, and one at the end. -/
theorem line_ends_ignored_errorHint :
    '\r' ∉ "error\n\nhint\n\n".toList ∧
      ofPayload "error\r\n\r\nhint\r\n\r\n" = ofPayload "error\n\nhint\n\n" ∧
      (ofPayload "error\n\nhint\n\n").lines = ["error", "", "hint"] := by
  have hreturn : '\r' ∉ "error\n\nhint\n\n".toList := by decide
  have hreturns : withReturns "error\n\nhint\n\n" = "error\r\n\r\nhint\r\n\r\n" := by decide +kernel
  have h := line_ends_ignored.1 "error\n\nhint\n\n" hreturn
  rw [hreturns] at h
  exact ⟨hreturn, h, by decide +kernel⟩

end Diagnostic

end Playground
