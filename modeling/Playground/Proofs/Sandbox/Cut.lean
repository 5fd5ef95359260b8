import Playground.Proofs.Console.History
import Playground.Proofs.Sandbox.Course

/-!
# What a program cannot see

A program sees neither the console that it prints to nor the limit on its lines. Two runs of one
artifact are therefore in lockstep until the lower of their limits is reached.

* `asked`, `stray` — the lines that requests ask for up to the first one outside the memory, and why
  that one is refused.
* `serve_eq` — serving requests in closed form: the limit cuts the lines, and nothing else.
* `upTo`, `exceeded` — what a limit lets through, and whether that is less than all.
* `execute_closed` — a run in closed form: the console is written the lines up to the limit, and the
  result is that of a run without a limit unless the limit cut the lines.
* `execute_eq_on` — the console matters neither to what is printed nor to the result.
* `lower_limit_cuts` — a lower limit cuts the lines short and does nothing else.
-/

set_option autoImplicit false

namespace Playground.Sandbox

open Wasm

/-- The lines that requests ask for, up to the first request outside the memory. -/
def asked : List Request → List String
  | [] => []
  | r :: rest =>
    match r.content with
    | .ok _ => r.lines ++ asked rest
    | .error _ => []

/-- Why the first request outside the memory is refused, if there is one. -/
def stray : List Request → Option Fault
  | [] => none
  | r :: rest =>
    match r.content with
    | .ok _ => stray rest
    | .error f => some f

section

variable {r : Request} {rs : List Request}

theorem asked_cons_of_ok {bytes : List UInt8} (h : r.content = .ok bytes) :
    asked (r :: rs) = r.lines ++ asked rs := by
  simp only [asked, h]

theorem asked_cons_of_error {f : Fault} (h : r.content = .error f) : asked (r :: rs) = [] := by
  simp only [asked, h]

theorem stray_cons_of_ok {bytes : List UInt8} (h : r.content = .ok bytes) :
    stray (r :: rs) = stray rs := by
  simp only [stray, h]

theorem stray_cons_of_error {f : Fault} (h : r.content = .error f) :
    stray (r :: rs) = some f := by
  simp only [stray, h]

end

namespace Host

variable {h : Host}

/-- Lines that the first of two lists already exhausts the limit for. -/
theorem granted_append_of_overflow {first : List String} {f : Fault}
    (ho : h.overflow first = some f) (rest : List String) :
    h.granted (first ++ rest) = h.granted first ∧ h.overflow (first ++ rest) = some f := by
  unfold overflow at ho ⊢
  unfold granted
  cases hm : h.maxLines with
  | none => simp only [hm, reduceCtorEq] at ho
  | some n =>
    simp only [hm] at ho ⊢
    split at ho
    · rename_i hlt
      have hlt' : n - h.written < (first ++ rest).length := by
        rw [List.length_append]; omega
      exact ⟨List.take_append_of_le_length (by omega), by rw [if_pos hlt', ho]⟩
    · cases ho

/-- The host after lines that all fit. -/
def wrote (h : Host) (lines : List String) : Host :=
  { h with
    console := h.console.afterAll (lines.map .line)
    written := h.written + lines.length }

/-- Lines that the first of two lists leaves room for. -/
theorem granted_append_of_room {first : List String} (ho : h.overflow first = none)
    (rest : List String) :
    h.granted (first ++ rest) = first ++ (h.wrote first).granted rest ∧
      h.overflow (first ++ rest) = (h.wrote first).overflow rest := by
  have hw : (h.wrote first).maxLines = h.maxLines := rfl
  have hn : (h.wrote first).written = h.written + first.length := rfl
  unfold overflow at ho ⊢
  unfold granted
  rw [hw, hn]
  cases hm : h.maxLines with
  | none => exact ⟨rfl, rfl⟩
  | some n =>
    simp only [hm] at ho
    split at ho
    · cases ho
    · rename_i hge
      have hsub : n - h.written = first.length + (n - (h.written + first.length)) := by omega
      have hiff : n - h.written < (first ++ rest).length ↔
          n - (h.written + first.length) < rest.length := by
        rw [List.length_append]; omega
      refine ⟨?_, by simp only [hiff]⟩
      simp only
      rw [hsub, List.take_length_add_append]

/-- **Requests in closed form.** The lines asked for are written as far as the limit goes; if it goes
far enough, the request outside the memory is refused. -/
theorem serve_eq (rs : List Request) : ∀ {h : Host}, h.fault = none →
    h.serve rs = { h.wrote (h.granted (asked rs)) with
      fault := (h.overflow (asked rs)).or (stray rs) } := by
  induction rs with
  | nil =>
    intro h hf
    have hclosed : { h.wrote (h.granted (asked [])) with
        fault := (h.overflow (asked [])).or (stray []) } = { h with fault := none } := by
      rw [asked, granted_nil, overflow_nil]; rfl
    rw [hclosed, ← hf]
    rfl
  | cons r rs ih =>
    intro h hf
    cases hr : r.content with
    | error f =>
      have hrefused : (h.answer r).fault = some f := by rw [answer_of_error hr]
      rw [serve_cons_of_refused hrefused, answer_of_error hr, asked_cons_of_error hr,
        stray_cons_of_error hr, granted_nil, overflow_nil]
      rfl
    | ok bytes =>
      have hanswer := answer_of_ok (h := h) hr
      rw [writeLines_eq _ hf] at hanswer
      rw [asked_cons_of_ok hr, stray_cons_of_ok hr]
      cases ho : h.overflow r.lines with
      | some f =>
        -- the limit falls into this request, so no later one comes
        have hrefused : (h.answer r).fault = some f := by rw [hanswer, ho]
        obtain ⟨hg, hov⟩ := granted_append_of_overflow ho (asked rs)
        rw [serve_cons_of_refused hrefused, hanswer, hg, hov, ho]
        rfl
      | none =>
        have hserved : h.answer r = h.wrote r.lines := by
          rw [hanswer, ho, granted_of_no_overflow ho, ← hf]; rfl
        have hfault : (h.answer r).fault = none := by rw [hserved]; exact hf
        obtain ⟨hg, hov⟩ := granted_append_of_room ho (asked rs)
        rw [serve_cons_of_served hfault, ih hfault, hserved, hg, hov]
        simp only [wrote, List.map_append, Console.afterAll_append, List.length_append,
          Nat.add_assoc]

end Host

/-! ## Limits on lines -/

/-- The lines that a limit lets through. -/
def upTo (limit : Option Nat) (lines : List String) : List String :=
  match limit with
  | none => lines
  | some n => lines.take n

/-- The limit, if it does not let all lines through. -/
def exceeded (limit : Option Nat) (lines : List String) : Option Nat :=
  match limit with
  | none => none
  | some n => if n < lines.length then some n else none

/-- Whether a limit is at most another one. No limit is above all. -/
def AtMost : Option Nat → Option Nat → Prop
  | _, none => True
  | none, some _ => False
  | some n, some m => n ≤ m

theorem granted_new (console : Console) (limit : Option Nat) (lines : List String) :
    (Host.new console limit).granted lines = upTo limit lines := by
  cases limit <;> rfl

theorem overflow_new (console : Console) (limit : Option Nat) (lines : List String) :
    (Host.new console limit).overflow lines = (exceeded limit lines).map .outputLimit := by
  cases limit with
  | none => rfl
  | some n =>
    have hover : (Host.new console (some n)).overflow lines =
        if n < lines.length then some (.outputLimit n) else none := rfl
    rw [hover, exceeded]
    split <;> rfl

theorem exceeded_of_fits {limit : Option Nat} {lines : List String}
    (h : ∀ n, limit = some n → lines.length ≤ n) : exceeded limit lines = none := by
  cases limit with
  | none => rfl
  | some n =>
    have hle := h n rfl
    exact if_neg (by omega)

theorem upTo_of_not_exceeded {limit : Option Nat} {lines : List String}
    (h : exceeded limit lines = none) : upTo limit lines = lines := by
  cases limit with
  | none => rfl
  | some n =>
    rw [exceeded] at h
    split at h
    · cases h
    · exact List.take_of_length_le (by omega)

/-- A higher limit does not show behind a lower one. -/
theorem upTo_upTo {low high : Option Nat} (h : AtMost low high) (lines : List String) :
    upTo low (upTo high lines) = upTo low lines := by
  cases high with
  | none => rfl
  | some m =>
    cases low with
    | none => cases h
    | some n =>
      have hmin : min n m = n := Nat.min_eq_left h
      rw [upTo, upTo, upTo, List.take_take, hmin]

/-- If a lower limit lets through what a higher one does, they stop the same. -/
theorem exceeded_eq_of_fits {low high : Option Nat} (h : AtMost low high) {lines : List String}
    (hfits : ∀ n, low = some n → (upTo high lines).length ≤ n) :
    exceeded low lines = exceeded high lines := by
  cases high with
  | none => exact exceeded_of_fits hfits
  | some m =>
    cases low with
    | none => cases h
    | some n =>
      have hle : n ≤ m := h
      have hlen := hfits n rfl
      rw [upTo, List.length_take] at hlen
      by_cases hm : m < lines.length
      · -- the higher limit stops the lines, so the lower one is no lower
        obtain rfl : n = m := by omega
        rfl
      · have hn : ¬ n < lines.length := by omega
        rw [exceeded, exceeded, if_neg hn, if_neg hm]

theorem exceeded_of_cut {n : Nat} {high : Option Nat} {lines : List String}
    (h : n < (upTo high lines).length) : exceeded (some n) lines = some n := by
  have hlen : (upTo high lines).length ≤ lines.length := by
    cases high with
    | none => exact Nat.le_refl _
    | some m => rw [upTo, List.length_take]; omega
  exact if_pos (by omega)

end Playground.Sandbox

namespace Playground

open Sandbox Wasm

namespace Sandbox

/-! ## Runs in closed form -/

variable (s : Sandbox) (artifact : List UInt8)

/-- The lines that an artifact prints if no limit stops it. -/
def fullLines : List String := asked (s.course artifact).requests

/-- What an artifact comes to if no limit stops it. -/
def fullResult : Except Crash Nat :=
  match stray (s.course artifact).requests with
  | some f => .error (refusalCrash f)
  | none => (s.course artifact).ending.map fun _ => (s.fullLines artifact).length

/-- The sandbox with another limit on lines. -/
def withMaxLines (limit : Option Nat) : Sandbox :=
  { s with limits := { s.limits with maxOutputLines := limit } }

/-- **A run in closed form**: the lines go to the console as far as the limit admits, and the limit
is the crash if it does not admit all. -/
theorem execute_closed (console : Console) : s.execute console artifact =
    ⟨console.afterAll ((upTo s.limits.maxOutputLines (s.fullLines artifact)).map .line),
      match exceeded s.limits.maxOutputLines (s.fullLines artifact) with
      | some n => .error (refusalCrash (.outputLimit n))
      | none => s.fullResult artifact⟩ := by
  have hnew : (Host.new console s.limits.maxOutputLines).fault = none := rfl
  have hserve := Host.serve_eq (s.course artifact).requests hnew
  rw [granted_new, overflow_new] at hserve
  rw [execute_eq, fullResult]
  cases ho : exceeded s.limits.maxOutputLines (asked (s.course artifact).requests) with
  | some n => simp only [Host.follow, hserve, fullLines, ho]; rfl
  | none =>
    rw [ho] at hserve
    cases hs : stray (s.course artifact).requests with
    | some f => simp only [Host.follow, hserve, fullLines, ho, hs]; rfl
    | none =>
      have hall := upTo_of_not_exceeded ho
      simp only [Host.follow, hserve, fullLines, ho, hs, hall]
      simp [Host.wrote, Host.new]

/-- What an artifact does is settled without the limit on lines. -/
theorem course_withMaxLines (limit : Option Nat) :
    (s.withMaxLines limit).course artifact = s.course artifact := rfl

theorem fullLines_withMaxLines (limit : Option Nat) :
    (s.withMaxLines limit).fullLines artifact = s.fullLines artifact := by
  rw [fullLines, course_withMaxLines, fullLines]

theorem fullResult_withMaxLines (limit : Option Nat) :
    (s.withMaxLines limit).fullResult artifact = s.fullResult artifact := by
  rw [fullResult, course_withMaxLines, fullLines_withMaxLines, fullResult]

theorem execute_withMaxLines (limit : Option Nat) (console : Console) :
    (s.withMaxLines limit).execute console artifact =
      ⟨console.afterAll ((upTo limit (s.fullLines artifact)).map .line),
        match exceeded limit (s.fullLines artifact) with
        | some n => .error (refusalCrash (.outputLimit n))
        | none => s.fullResult artifact⟩ := by
  rw [execute_closed, fullLines_withMaxLines, fullResult_withMaxLines]
  rfl

/-- The lines that a run prints, as a console of its own that keeps all of them shows them. -/
def printed : List String := (s.execute (.new none) artifact).console.lines

theorem printed_eq : s.printed artifact =
    upTo s.limits.maxOutputLines (s.fullLines artifact) := by
  have hempty : (Console.new none).lines = Console.kept none [] := rfl
  rw [printed, execute_closed]
  exact (Console.calm_new none).lines_afterAll_lines _ hempty

/-- **The console does not matter**: every console is written the lines that a run prints, and the
result is the same. -/
theorem execute_eq_on (console other : Console) : s.execute console artifact =
    ⟨console.afterAll ((s.printed artifact).map .line), (s.execute other artifact).result⟩ := by
  rw [execute_closed, execute_closed, printed_eq]

/-- **A lower limit cuts the lines short and does nothing else.** Whatever the consoles are: the run
under the lower limit prints the first of the lines that the other one prints; if the lower limit
admits them all, the results are the same, and otherwise it ends at that limit, however the other
run ends. -/
theorem lower_limit_cuts {low high : Option Nat} (hle : AtMost low high) :
    let short := s.withMaxLines low
    let long := s.withMaxLines high
    let lines := long.printed artifact
    ∀ c c' : Console,
      (long.execute c' artifact).console = c'.afterAll (lines.map .line) ∧
      (short.execute c artifact).console = c.afterAll ((upTo low lines).map .line) ∧
      ((∀ n, low = some n → lines.length ≤ n) →
        (short.execute c artifact).result = (long.execute c' artifact).result) ∧
      (∀ n, low = some n → n < lines.length →
        (short.execute c artifact).result =
          .error ⟨.outputLimit, (Fault.outputLimit n).message⟩) := by
  intro short long lines c c'
  have hshort : short.execute c artifact = _ := s.execute_withMaxLines artifact low c
  have hlong : long.execute c' artifact = _ := s.execute_withMaxLines artifact high c'
  have hlines : lines = upTo high (s.fullLines artifact) := by
    rw [← s.fullLines_withMaxLines artifact high]
    exact long.printed_eq artifact
  refine ⟨?_, ?_, ?_, ?_⟩
  · rw [hlong, hlines]
  · rw [hshort, hlines, upTo_upTo hle]
  · intro hfits
    rw [hlines] at hfits
    rw [hshort, hlong, exceeded_eq_of_fits hle hfits]
  · intro n hn hcut
    subst hn
    rw [hlines] at hcut
    rw [hshort, exceeded_of_cut hcut]
    rfl

/-- A module whose start function prints the first byte of its memory three times. The memory is all
zeros, so each time that is a line of one character. -/
def threePrints : List UInt8 :=
  [0, 97, 115, 109, 1, 0, 0, 0,
    -- types: two 64-bit numbers to nothing, nothing to nothing
    1, 9, 2, 96, 2, 126, 126, 0, 96, 0, 0,
    -- imports: a memory of one page, the function to print
    2, 34, 2, 3, 115, 121, 115, 6, 109, 101, 109, 111, 114, 121, 2, 0, 1,
    3, 115, 121, 115, 12, 112, 114, 105, 110, 116, 95, 115, 116, 114, 105, 110, 103, 0, 0,
    -- one function, which is the start function
    3, 2, 1, 1, 8, 1, 1,
    -- its code: three times offset zero, length one, call
    10, 22, 1, 20, 0, 66, 0, 66, 1, 16, 0, 66, 0, 66, 1, 16, 0, 66, 0, 66, 1, 16, 0, 11]

/-- Of three lines the first one gets through. -/
theorem lower_limit_cuts_threePrints :
    let s : Sandbox := ⟨"sys", none, .unlimited, 20⟩
    AtMost (some 1) (some 3) ∧
      (s.withMaxLines (some 3)).printed threePrints = ["\x00", "\x00", "\x00"] ∧
      ((s.withMaxLines (some 1)).execute (.new (some 0)) threePrints).result =
        .error ⟨.outputLimit, (Fault.outputLimit 1).message⟩ := by
  intro s
  have hle : AtMost (some 1) (some 3) := Nat.le_add_right 1 2
  have hprinted : (s.withMaxLines (some 3)).printed threePrints = ["\x00", "\x00", "\x00"] := by
    decide +kernel
  obtain ⟨-, -, -, hcut⟩ := lower_limit_cuts s threePrints hle (.new (some 0)) (.new none)
  refine ⟨hle, hprinted, hcut 1 rfl ?_⟩
  rw [hprinted]
  decide

end Sandbox

end Playground
