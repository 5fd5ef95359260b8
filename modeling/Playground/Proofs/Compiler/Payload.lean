import Playground.Compiler.External
import Playground.Proofs.Compiler.Diagnostic

/-!
# What a failed compiler has to say

A compiler process that failed has two outputs and a way in which it ended. One of the three becomes
the payload of the failure, and the diagnostic is read off the payload.

* `visible` — the characters of a text that are not white space; `visible_payloadLines` says that
  cutting a payload into lines loses none of them.
* `Chosen` — the payload of a process that failed.
* `Explains` — a diagnostic that keeps what a payload says.
* `failure_explained` — the diagnostic of a process that failed keeps what the chosen payload says.
-/

set_option autoImplicit false

namespace Playground

open Text

/-! ## Characters that can be seen -/

namespace Text.Lines

/-- The characters of a text that are not white space. -/
def visible (text : List Char) : List Char := text.filter (!isSpace ·)

theorem visible_flatten (lines : List (List Char)) :
    visible lines.flatten = (lines.map visible).flatten := List.filter_flatten

theorem isBlank_iff_visible {text : List Char} : isBlank text ↔ visible text = [] := by
  rw [isBlank, List.all_eq_true, visible, List.filter_eq_nil_iff]
  simp

theorem isBlank_eq_false_iff {text : List Char} :
    isBlank text = false ↔ ∃ c ∈ text, isSpace c = false := by
  rw [isBlank, List.all_eq_false]
  simp

/-- Cutting loses the separators and nothing else. -/
theorem flatten_cut {α : Type} [BEq α] [LawfulBEq α] (sep : α) (xs : List α) :
    (cut sep xs).flatten = xs.filter (· != sep) := by
  induction xs with
  | nil => rfl
  | cons x xs ih =>
    obtain ⟨piece, others, hcut⟩ := List.exists_cons_of_ne_nil (cut_ne_nil sep xs)
    by_cases hx : x = sep
    · rw [hx, cut_cons_sep, List.flatten_cons, List.nil_append, ih,
        List.filter_cons_of_neg (by simp)]
    · rw [hcut, List.flatten_cons] at ih
      rw [cut_cons_of_ne hx hcut, List.flatten_cons, List.cons_append, ih,
        List.filter_cons_of_pos (by simpa using hx)]

/-- A carriage return is white space. -/
theorem visible_dropReturn (line : List Char) : visible (dropReturn line) = visible line := by
  unfold dropReturn
  split
  · rename_i hlast
    obtain ⟨front, rfl⟩ := List.getLast?_eq_some_iff.mp hlast
    have hreturn : ['\r'].filter (!isSpace ·) = [] := by decide
    rw [List.dropLast_concat, visible, visible, List.filter_append, hreturn, List.append_nil]
  · rfl

/-- The empty lines at the end hold nothing. -/
theorem flatten_dropEmptyEnd (lines : List (List Char)) :
    (dropEmptyEnd lines).flatten = lines.flatten := by
  induction lines using List.reverseRecOn with
  | nil => rfl
  | append_singleton lines line ih =>
    by_cases hempty : line = []
    · rw [hempty, dropEmptyEnd_append_nil, ih, List.flatten_append]
      simp
    · rw [dropEmptyEnd_of_getLast?_ne (by simpa using hempty)]

end Text.Lines

open Lines

namespace Diagnostic

/-- **The lines of a payload hold every character of it that can be seen**, in order. -/
theorem visible_payloadLines (text : List Char) :
    visible (payloadLines text).flatten = visible text := by
  have hfeed : ∀ c ∈ text, ((!isSpace c) && (c != '\n')) = !isSpace c := by
    intro c _
    by_cases hc : c = '\n'
    · rw [hc]; decide
    · rw [bne_iff_ne.mpr hc, Bool.and_true]
  rw [payloadLines, flatten_dropEmptyEnd, visible_flatten, List.map_map]
  have hlines : visible ∘ dropReturn = visible := funext visible_dropReturn
  rw [hlines, ← visible_flatten, flatten_cut, visible, List.filter_filter, visible]
  exact List.filter_congr hfeed

/-- A payload that says something has a line that does. -/
theorem spoken_payloadLines {text : List Char} (h : isBlank text = false) :
    (payloadLines text).all isBlank = false := by
  rw [Bool.eq_false_iff] at h ⊢
  intro hall
  apply h
  rw [isBlank_iff_visible, ← visible_payloadLines, visible_flatten, List.flatten_eq_nil_iff]
  intro kept hkept
  obtain ⟨line, hline, rfl⟩ := List.mem_map.mp hkept
  exact isBlank_iff_visible.mp (List.all_eq_true.mp hall line hline)

/-- The diagnostic keeps what the payload says. -/
structure Explains (payload : String) (d : Diagnostic) : Prop where
  /-- The payload does say something. -/
  spoken : (payloadLines payload.toList).all isBlank = false
  /-- The lines are those of the payload. Each has lost one carriage return at its end, and the
  empty ones at the end are gone. -/
  lines : d.lines = (payloadLines payload.toList).map String.ofList
  /-- All characters but white space are there, in order. -/
  visible : visible (d.lines.flatMap String.toList) = visible payload.toList

/-- **A payload that is not blank is kept.** -/
theorem explains_ofPayload {payload : String} (h : isBlank payload.toList = false) :
    Explains payload (ofPayload payload) := by
  have hspoken := spoken_payloadLines h
  have hlines : (ofPayload payload).lines = (payloadLines payload.toList).map String.ofList := by
    rw [ofPayload_eq, hspoken]
    rfl
  refine ⟨hspoken, hlines, ?_⟩
  rw [hlines, ← visible_payloadLines payload.toList, List.flatMap_map]
  simp [List.flatMap_def]

end Diagnostic

/-! ## The payload of a process -/

namespace Compiler

open Files Diagnostic

/-- What a process that failed has to say: its standard error if that is not blank, otherwise its
standard output if that is not blank, and otherwise how it ended. -/
inductive Chosen (r : Report) : String → Prop
  | errors (seen : ∃ c ∈ Utf8.decodeLossy r.errors, isSpace c = false) :
      Chosen r (String.ofList (Utf8.decodeLossy r.errors))
  | output (blank : ∀ c ∈ Utf8.decodeLossy r.errors, isSpace c)
      (seen : ∃ c ∈ Utf8.decodeLossy r.output, isSpace c = false) :
      Chosen r (String.ofList (Utf8.decodeLossy r.output))
  | status (blank : ∀ c ∈ Utf8.decodeLossy r.errors, isSpace c)
      (blank' : ∀ c ∈ Utf8.decodeLossy r.output, isSpace c) :
      Chosen r ("compiler exited with " ++ r.status.display)

theorem chosen_failurePayload (r : Report) : Chosen r r.failurePayload := by
  rw [Report.failurePayload, Report.choosePayload]
  cases herrors : isBlank (Utf8.decodeLossy r.errors) with
  | false => exact .errors (isBlank_eq_false_iff.mp herrors)
  | true =>
    have hblank := List.all_eq_true.mp herrors
    cases houtput : isBlank (Utf8.decodeLossy r.output) with
    | false => exact .output hblank (isBlank_eq_false_iff.mp houtput)
    | true => exact .status hblank (List.all_eq_true.mp houtput)

/-- How a process ended is never blank. -/
theorem Chosen.not_blank {r : Report} {payload : String} (h : Chosen r payload) :
    isBlank payload.toList = false := by
  cases h with
  | errors seen => rw [String.toList_ofList]; exact isBlank_eq_false_iff.mpr seen
  | output _ seen => rw [String.toList_ofList]; exact isBlank_eq_false_iff.mpr seen
  | status _ _ =>
    rw [String.toList_append]
    exact isBlank_eq_false_iff.mpr ⟨'c', List.mem_append_left _ (by decide), by decide⟩

/-- **The message of a process that failed is not lost.** Whatever it wrote and however it ended, it
has a payload that is not blank, and the diagnostic keeps what the payload says. -/
theorem External.failure_explained (x : External) (directory : Place) {r : Report}
    (h : r.status.isSuccess = false) :
    ∃ payload d, x.collect directory r = .failure payload ∧ Chosen r payload ∧
      (x.collect directory r).artifact = .error d ∧ d.Explains payload := by
  have hcollect : x.collect directory r = .failure r.failurePayload := by
    rw [External.collect, h]
    rfl
  have hchosen := chosen_failurePayload r
  rw [hcollect]
  exact ⟨_, _, rfl, hchosen, rfl, Diagnostic.explains_ofPayload hchosen.not_blank⟩

/-- The standard error has a space and a line feed only. On the standard output there are two lines,
with a byte that is no text, and an empty one. -/
theorem External.failure_explained_output :
    let r : Report :=
      ⟨.exited 1, [0x6E, 0x6F, 0x0D, 0x0A, 0x20, 0xFF, 0x0A, 0x0D, 0x0A], [0xC2, 0xA0, 0x0A], .empty⟩
    let x : External := ⟨⟨["cc"], "a", "b", []⟩, "/cc", fun _ _ => .ok r, []⟩
    r.status.isSuccess = false ∧
      (x.collect [] r).artifact = .error ⟨["no", " \ufffd"]⟩ := by
  intro r x
  have hfailed : r.status.isSuccess = false := by decide
  obtain ⟨payload, d, -, hchosen, hartifact, hexplains⟩ := x.failure_explained [] hfailed
  refine ⟨hfailed, ?_⟩
  have hblank : isBlank (Utf8.decodeLossy r.errors) = true := by decide +kernel
  have hseen : isBlank (Utf8.decodeLossy r.output) = false := by decide +kernel
  rw [hartifact]
  cases hchosen with
  | errors seen =>
    rw [isBlank_eq_false_iff.mpr seen] at hblank
    cases hblank
  | output _ _ =>
    have hkept : payloadLines (Utf8.decodeLossy r.output) = ["no".toList, " \ufffd".toList] := by
      decide +kernel
    have hlines := hexplains.lines
    rw [String.toList_ofList, hkept] at hlines
    exact congrArg (fun lines => Except.error (Diagnostic.mk lines)) hlines
  | status _ blank' =>
    obtain ⟨c, hc, hspace⟩ := isBlank_eq_false_iff.mp hseen
    rw [blank' c hc] at hspace
    cases hspace

end Compiler

end Playground
