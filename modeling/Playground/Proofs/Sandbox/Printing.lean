import Playground.Proofs.Console.Events
import Playground.Sandbox.Host

/-!
# Printing under a limit

A run prints by requests, each for a range of the memory as it then is. The number of lines is
counted over the whole run, and a request can be refused in the middle of its lines.

* `Request` — a request, and the lines that it asks for.
* `Host.serve` — requests in order, up to the first that is refused.
* `writeLines_eq` — what becomes of the lines of one request: as many are written as the limit
  leaves room for.
* `Printed` — the host after certain lines were delivered; `Printed.answer` and `Printed.serve` say
  what one request and a sequence of requests add to them.
-/

set_option autoImplicit false

namespace Playground.Sandbox

open Wasm

/-- A request to print a range of a memory. -/
structure Request where
  memory : Memory
  offset : UInt64
  length : UInt64

namespace Request

/-- The bytes that a request asks for, or why there are none. -/
def content (r : Request) : Except Fault (List UInt8) := readRange r.memory r.offset r.length

/-- The lines that a request asks for; none if the range is not inside the memory. -/
def lines (r : Request) : List String :=
  match r.content with
  | .ok bytes => Host.linesOf bytes
  | .error _ => []

variable {r : Request}

theorem lines_of_ok {bytes : List UInt8} (h : r.content = .ok bytes) :
    r.lines = Host.linesOf bytes := by
  simp only [lines, h]

end Request

namespace Host

variable {h : Host} {r : Request}

/-- The host after a request. -/
def answer (h : Host) (r : Request) : Host := h.print r.memory r.offset r.length

theorem answer_of_ok {bytes : List UInt8} (hr : r.content = .ok bytes) :
    h.answer r = h.writeLines r.lines := by
  rw [Request.lines_of_ok hr]
  simp only [Request.content] at hr
  simp only [answer, print, hr]

theorem answer_of_error {f : Fault} (hr : r.content = .error f) :
    h.answer r = { h with fault := some f } := by
  simp only [Request.content] at hr
  simp only [answer, print, hr]

/-- The host after requests in order, up to the first that is refused. -/
def serve (h : Host) : List Request → Host
  | [] => h
  | r :: rest => if (h.answer r).fault.isSome then h.answer r else (h.answer r).serve rest

/-- The requests that are made when every refusal ends the run: all up to the first refused one. -/
def made (h : Host) : List Request → List Request
  | [] => []
  | r :: rest => r :: if (h.answer r).fault.isSome then [] else (h.answer r).made rest

theorem serve_cons_of_refused {f : Fault} (hf : (h.answer r).fault = some f) (rs : List Request) :
    h.serve (r :: rs) = h.answer r := by
  simp [serve, hf]

theorem serve_cons_of_served (hf : (h.answer r).fault = none) (rs : List Request) :
    h.serve (r :: rs) = (h.answer r).serve rs := by
  simp [serve, hf]

theorem serve_singleton (h : Host) (r : Request) : h.serve [r] = h.answer r := by
  rw [serve, serve, ite_self]

theorem made_cons_of_refused {f : Fault} (hf : (h.answer r).fault = some f) (rs : List Request) :
    h.made (r :: rs) = [r] := by
  simp [made, hf]

theorem made_cons_of_served (hf : (h.answer r).fault = none) (rs : List Request) :
    h.made (r :: rs) = r :: (h.answer r).made rs := by
  simp [made, hf]

/-- If no request is refused, all are made. -/
theorem made_of_served (rs : List Request) : ∀ {h : Host}, (h.serve rs).fault = none →
    h.made rs = rs := by
  induction rs with
  | nil => intro h _; rfl
  | cons r rs ih =>
    intro h hf
    cases hr : (h.answer r).fault with
    | some f => rw [serve_cons_of_refused hr, hr] at hf; cases hf
    | none =>
      rw [serve_cons_of_served hr] at hf
      rw [made_cons_of_served hr, ih hf]

theorem serve_append (rs ss : List Request) : ∀ {h : Host}, (h.serve rs).fault = none →
    h.serve (rs ++ ss) = (h.serve rs).serve ss := by
  induction rs with
  | nil => intro h _; rfl
  | cons r rs ih =>
    intro h hf
    cases hr : (h.answer r).fault with
    | some f =>
      rw [serve_cons_of_refused hr, hr] at hf
      cases hf
    | none =>
      rw [serve_cons_of_served hr] at hf
      rw [List.cons_append, serve_cons_of_served hr, serve_cons_of_served hr, ih hf]

theorem serve_append_of_refused {f : Fault} (rs ss : List Request) : ∀ {h : Host},
    h.fault = none → (h.serve rs).fault = some f → h.serve (rs ++ ss) = h.serve rs := by
  induction rs with
  | nil =>
    intro h hn hf
    rw [serve, hn] at hf
    cases hf
  | cons r rs ih =>
    intro h _ hf
    cases hr : (h.answer r).fault with
    | some f' => rw [List.cons_append, serve_cons_of_refused hr, serve_cons_of_refused hr]
    | none =>
      rw [serve_cons_of_served hr] at hf
      rw [List.cons_append, serve_cons_of_served hr, serve_cons_of_served hr, ih hr hf]

/-! ## The lines of one request -/

/-- The lines that the limit leaves room for. -/
def granted (h : Host) (lines : List String) : List String :=
  match h.maxLines with
  | none => lines
  | some n => lines.take (n - h.written)

/-- The fault that lines lead to, if there is no room for all of them. -/
def overflow (h : Host) (lines : List String) : Option Fault :=
  match h.maxLines with
  | none => none
  | some n => if n - h.written < lines.length then some (.outputLimit n) else none

@[simp] theorem granted_nil (h : Host) : h.granted [] = [] := by
  unfold granted
  split
  · rfl
  · exact List.take_nil

@[simp] theorem overflow_nil (h : Host) : h.overflow [] = none := by
  unfold overflow
  split
  · rfl
  · exact if_neg (Nat.not_lt_zero _)

theorem writeLine_of_room (hx : h.exhausted = none) (line : String) : h.writeLine line =
    { h with console := h.console.after (.line line), written := h.written + 1 } := by
  simp only [writeLine, hx, Console.after]

theorem writeLine_of_full {n : Nat} (hx : h.exhausted = some n) (line : String) :
    h.writeLine line = { h with fault := some (.outputLimit n) } := by
  simp only [writeLine, hx]

theorem full_of_exhausted {n : Nat} (hx : h.exhausted = some n) :
    h.maxLines = some n ∧ n ≤ h.written := by
  unfold exhausted at hx
  split at hx
  · cases hx
  · rename_i m hm
    split at hx
    · rename_i hle
      obtain rfl : m = n := Option.some.inj hx
      exact ⟨hm, hle⟩
    · cases hx

theorem room_of_not_exhausted {n : Nat} (hx : h.exhausted = none) (hm : h.maxLines = some n) :
    h.written < n := by
  simp only [exhausted, hm] at hx
  split at hx
  · cases hx
  · omega

theorem granted_cons_of_room (hx : h.exhausted = none) (line : String) (rest : List String) :
    h.granted (line :: rest) = line :: (h.writeLine line).granted rest := by
  rw [writeLine_of_room hx]
  unfold granted
  cases hm : h.maxLines with
  | none => rfl
  | some n =>
    have hlt := room_of_not_exhausted hx hm
    have hsub : n - h.written = n - (h.written + 1) + 1 := by omega
    simp only [hsub, List.take_succ_cons]

theorem overflow_cons_of_room (hx : h.exhausted = none) (line : String) (rest : List String) :
    h.overflow (line :: rest) = (h.writeLine line).overflow rest := by
  rw [writeLine_of_room hx]
  unfold overflow
  cases hm : h.maxLines with
  | none => rfl
  | some n =>
    have hlt := room_of_not_exhausted hx hm
    have hiff : n - h.written < (line :: rest).length ↔ n - (h.written + 1) < rest.length := by
      simp only [List.length_cons]; omega
    simp only [hiff]

/-- **What becomes of lines**: as many are written as there is room for, and if that is not all of
them, the limit is reported. -/
theorem writeLines_eq (lines : List String) : ∀ {h : Host}, h.fault = none →
    h.writeLines lines =
      { h with
        console := h.console.afterAll ((h.granted lines).map .line)
        written := h.written + (h.granted lines).length
        fault := h.overflow lines } := by
  induction lines with
  | nil =>
    intro h hf
    rw [granted_nil, overflow_nil, ← hf]; rfl
  | cons line rest ih =>
    intro h hf
    cases hx : h.exhausted with
    | some n =>
      -- no room: the first line is refused and nothing is written
      obtain ⟨hm, hle⟩ := full_of_exhausted hx
      have hsub : n - h.written = 0 := by omega
      simp [writeLines, writeLine_of_full hx, granted, overflow, hm, hsub]
    | none =>
      have hnext : (h.writeLine line).fault = none := by rw [writeLine_of_room hx]; exact hf
      have hstep : h.writeLines (line :: rest) = (h.writeLine line).writeLines rest := by
        simp [writeLines, hnext]
      rw [hstep, ih hnext, granted_cons_of_room hx, overflow_cons_of_room hx]
      simp only [writeLine_of_room hx, List.map_cons, Console.afterAll_cons, List.length_cons,
        Nat.add_assoc, Nat.add_comm 1]

/-- The limit can fall into the middle of a request. -/
example : (Host.new (.new none) (some 2)).writeLines ["one", "two", "three"] =
    ⟨((Console.new none).writeLine "one").console.writeLine "two" |>.console, some 2, 2,
      some (.outputLimit 2)⟩ := rfl

theorem granted_prefix (h : Host) (lines : List String) : h.granted lines <+: lines := by
  unfold granted
  split
  · exact List.prefix_rfl
  · exact List.take_prefix _ _

theorem granted_of_no_overflow {lines : List String} (ho : h.overflow lines = none) :
    h.granted lines = lines := by
  unfold overflow at ho
  unfold granted
  split at ho
  · rfl
  · split at ho
    · cases ho
    · exact List.take_of_length_le (by omega)

theorem length_granted {n : Nat} (hm : h.maxLines = some n) (lines : List String) :
    (h.granted lines).length = min (n - h.written) lines.length := by
  simp only [granted, hm, List.length_take]

/-! ## Counting over a run -/

/-- The host of a run that began with an empty count, after exactly these lines were delivered. -/
structure Printed (console : Console) (limit : Option Nat) (lines : List String) (h : Host) :
    Prop where
  console : h.console = console.afterAll (lines.map .line)
  maxLines : h.maxLines = limit
  written : h.written = lines.length
  within : ∀ n, limit = some n → lines.length ≤ n

variable {console : Console} {limit : Option Nat} {lines : List String}

theorem printed_new (console : Console) (limit : Option Nat) :
    (Host.new console limit).Printed console limit [] :=
  ⟨rfl, rfl, rfl, fun _ _ => Nat.zero_le _⟩

/-- One request delivers lines from the start of those that it asks for. -/
theorem Printed.answer (hp : h.Printed console limit lines) (hf : h.fault = none) (r : Request) :
    ∃ more, more <+: r.lines ∧ (h.answer r).Printed console limit (lines ++ more) ∧
      ((h.answer r).fault = none → more = r.lines) := by
  cases hr : r.content with
  | error f =>
    rw [answer_of_error hr]
    refine ⟨[], List.nil_prefix, ⟨?_, hp.maxLines, ?_, ?_⟩, nofun⟩
    · rw [List.append_nil]; exact hp.console
    · rw [List.append_nil]; exact hp.written
    · rw [List.append_nil]; exact hp.within
  | ok bytes =>
    rw [answer_of_ok hr, writeLines_eq _ hf]
    refine ⟨h.granted r.lines, h.granted_prefix r.lines, ⟨?_, hp.maxLines, ?_, ?_⟩, ?_⟩
    · rw [hp.console, List.map_append, Console.afterAll_append]
    · rw [hp.written, List.length_append]
    · intro n hn
      have hlen := length_granted (hp.maxLines.trans hn) r.lines
      have hwithin := hp.within n hn
      have hwritten := hp.written
      rw [List.length_append]
      omega
    · exact granted_of_no_overflow

/-- **What requests deliver**: the lines from the start of those asked for, and all of them unless
the last request that was made was refused. -/
theorem Printed.serve (rs : List Request) : ∀ {h : Host} {lines : List String},
    h.Printed console limit lines → h.fault = none →
      ∃ more, more <+: (h.made rs).flatMap Request.lines ∧
        (h.serve rs).Printed console limit (lines ++ more) ∧
        ((h.serve rs).fault = none → more = (h.made rs).flatMap Request.lines) := by
  induction rs with
  | nil =>
    intro h lines hp _
    exact ⟨[], List.nil_prefix, by rw [List.append_nil]; exact hp, fun _ => rfl⟩
  | cons r rs ih =>
    intro h lines hp hf
    obtain ⟨first, hpre, hp₁, hall₁⟩ := hp.answer hf r
    cases hr : (h.answer r).fault with
    | some f =>
      rw [serve_cons_of_refused hr, made_cons_of_refused hr, List.flatMap_singleton]
      exact ⟨first, hpre, hp₁, fun hno => hall₁ hno⟩
    | none =>
      -- the invariant carries the lines so far, so the others begin where the first ended
      obtain ⟨others, hpre₂, hp₂, hall₂⟩ := ih hp₁ hr
      rw [serve_cons_of_served hr, made_cons_of_served hr, List.flatMap_cons, ← hall₁ hr]
      refine ⟨first ++ others, ?_, ?_, ?_⟩
      · exact (List.prefix_append_right_inj first).mpr hpre₂
      · rw [← List.append_assoc]; exact hp₂
      · intro hno; rw [hall₂ hno]

/-- **When a request inside the memory is refused**: exactly when its lines do not fit under the
limit. -/
theorem Printed.refused_iff (hp : h.Printed console limit lines) (hf : h.fault = none)
    {bytes : List UInt8} (hr : r.content = .ok bytes) :
    (h.answer r).fault.isSome ↔ ∃ n, limit = some n ∧ n < h.written + r.lines.length := by
  rw [answer_of_ok hr, writeLines_eq _ hf, ← hp.maxLines]
  unfold overflow
  split
  · rename_i hm; simp [hm]
  · rename_i n hm
    have hwithin := hp.within n (hp.maxLines.symm.trans hm)
    have hwritten := hp.written
    simp only [hm, Option.some.injEq, exists_eq_left']
    split <;> simp <;> omega

/-- A request inside the memory is refused only by the limit, and then all lines are printed that
may be. -/
theorem Printed.refusal (hp : h.Printed console limit lines) (hf : h.fault = none)
    {bytes : List UInt8} (hr : r.content = .ok bytes) {f : Fault}
    (hfault : (h.answer r).fault = some f) :
    ∃ n, limit = some n ∧ f = .outputLimit n ∧ (h.answer r).written = n := by
  rw [answer_of_ok hr, writeLines_eq _ hf] at hfault ⊢
  simp only [overflow] at hfault
  split at hfault
  · cases hfault
  · rename_i n hm
    have hlimit := hp.maxLines.symm.trans hm
    have hwithin := hp.within n hlimit
    have hwritten := hp.written
    have hlen := length_granted hm r.lines
    split at hfault
    · cases hfault
      refine ⟨n, hlimit, rfl, ?_⟩
      simp only [hlen]
      omega
    · cases hfault

end Host

end Playground.Sandbox
