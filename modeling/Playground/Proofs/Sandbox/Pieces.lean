import Playground.Proofs.Sandbox.Cut
import Playground.Proofs.Text.Utf8

/-!
# The pieces of what is printed

The bytes that a request prints fall into pieces at their line feeds, and the lines that go to the
console are the non-empty pieces, each read as text on its own.

* `pieces` — the non-empty pieces between line feeds.
* `linesOf_eq` — the lines of bytes are their pieces, decoded one by one.
* `linesOf_pieces` — decoding neither adds nor removes a line.
* `serve_split` — a request may be made in two parts that meet behind a line feed.
-/

set_option autoImplicit false

namespace Playground.Sandbox

open Wasm Text Utf8

/-- The pieces of bytes between line feeds, without the empty ones. -/
def pieces (bytes : List UInt8) : List (List UInt8) :=
  (Lines.cut 0x0A bytes).filter (!·.isEmpty)

theorem mem_pieces {bytes piece : List UInt8} (h : piece ∈ pieces bytes) :
    piece ≠ [] ∧ 0x0A ∉ piece := by
  obtain ⟨hcut, hfull⟩ := List.mem_filter.mp h
  refine ⟨?_, Lines.not_mem_of_mem_cut hcut⟩
  rintro rfl
  cases hfull

theorem pieces_append (xs ys : List UInt8) :
    pieces (xs ++ 0x0A :: ys) = pieces xs ++ pieces ys := by
  rw [pieces, Lines.cut_append, List.filter_append]
  rfl

theorem isEmpty_decodeLossy (bytes : List UInt8) :
    (decodeLossy bytes).isEmpty = bytes.isEmpty := by
  rw [Bool.eq_iff_iff, List.isEmpty_iff, List.isEmpty_iff, decodeLossy_eq_nil_iff]

/-- **The lines of bytes are their pieces**, each read as text on its own. -/
theorem linesOf_eq (bytes : List UInt8) :
    Host.linesOf bytes = (pieces bytes).map fun piece => String.ofList (decodeLossy piece) := by
  rw [Host.linesOf, Lines.printed, cut_decodeLossy, List.filter_map, List.map_map, pieces]
  simp only [Function.comp_def, isEmpty_decodeLossy]

/-- Bytes on the two sides of a line feed are printed one after the other. -/
theorem linesOf_append (xs ys : List UInt8) :
    Host.linesOf (xs ++ 0x0A :: ys) = Host.linesOf xs ++ Host.linesOf ys := by
  rw [linesOf_eq, linesOf_eq, linesOf_eq, pieces_append, List.map_append]

/-- A line feed at the end prints nothing. -/
theorem linesOf_append_feed (xs : List UInt8) : Host.linesOf (xs ++ [0x0A]) = Host.linesOf xs := by
  have hnone : Host.linesOf [] = [] := by rw [linesOf_eq]; rfl
  rw [linesOf_append, hnone, List.append_nil]

/-- A request whose lines all fit under the limit has them counted. -/
theorem Host.written_answer {h : Host} {r : Request} {bytes : List UInt8}
    (hr : r.content = .ok bytes) (hf : h.fault = none) (hserved : (h.answer r).fault = none) :
    (h.answer r).written = h.written + (pieces bytes).length := by
  have hanswer := answer_of_ok (h := h) hr
  rw [writeLines_eq _ hf, Request.lines_of_ok hr] at hanswer
  rw [hanswer] at hserved ⊢
  rw [granted_of_no_overflow hserved, linesOf_eq, List.length_map]

/-- **Decoding never moves a line feed.** Whatever the bytes are, well-formed or not: the lines that
they print are their non-empty pieces, each decoded on its own; no line feed is swallowed and none is
made; no piece vanishes; and a request that is served prints as many lines as its bytes have
pieces. -/
theorem linesOf_pieces (bytes : List UInt8) :
    Host.linesOf bytes = (pieces bytes).map (fun piece => String.ofList (decodeLossy piece)) ∧
      Lines.cut '\n' (decodeLossy bytes) = (Lines.cut 0x0A bytes).map decodeLossy ∧
      (∀ piece ∈ pieces bytes, decodeLossy piece ≠ [] ∧ '\n' ∉ decodeLossy piece) ∧
      ∀ (h : Host) (r : Request), r.content = .ok bytes →
        r.lines.length = (pieces bytes).length ∧
          (h.fault = none → (h.answer r).fault = none →
            (h.answer r).written = h.written + (pieces bytes).length) := by
  refine ⟨linesOf_eq bytes, cut_decodeLossy bytes, ?_, ?_⟩
  · intro piece hpiece
    obtain ⟨hfull, hfeed⟩ := mem_pieces hpiece
    exact ⟨fun h => hfull (decodeLossy_eq_nil_iff.mp h), fun h => hfeed (feed_mem_decodeLossy h)⟩
  · intro h r hr
    refine ⟨?_, Host.written_answer hr⟩
    rw [Request.lines_of_ok hr, linesOf_eq, List.length_map]

/-- A lead byte without its followers, right in front of a line feed, and a stray byte behind it. -/
example : Host.linesOf [0xF0, 0x9F, 0x0A, 0x0A, 0x80] = ["\ufffd", "\ufffd"] := by
  decide +kernel

/-! ## Requests in two parts -/

variable {memory : Memory}

/-- The line feed that a range ends with prints nothing. -/
theorem linesOf_slice_add {start first second : Nat} (hfirst : 1 ≤ first)
    (hfeed : memory.byte (start + first - 1) = 0x0A) :
    Host.linesOf (memory.slice start (first + second)) =
      Host.linesOf (memory.slice start first) ++
        Host.linesOf (memory.slice (start + first) second) := by
  obtain ⟨n, rfl⟩ : ∃ n, first = n + 1 := ⟨first - 1, by omega⟩
  have hlast : memory.slice (start + n) 1 = [0x0A] := by
    rw [← hfeed]
    rfl
  have hpart : memory.slice start (n + 1) = memory.slice start n ++ [0x0A] := by
    rw [Memory.slice_add, hlast]
  rw [Memory.slice_add, hpart, linesOf_append_feed, List.append_assoc, List.singleton_append,
    linesOf_append]

/-- Two requests for the two parts of a range ask for the lines of the whole. -/
theorem asked_parts {offset first second middle whole : UInt64} (hfirst : 1 ≤ first.toNat)
    (hmiddle : middle.toNat = offset.toNat + first.toNat)
    (hwhole : whole.toNat = first.toNat + second.toNat)
    (hinside : offset.toNat + whole.toNat ≤ memory.size)
    (hfeed : memory.byte (middle.toNat - 1) = 0x0A) (rest : List Request) :
    asked (⟨memory, offset, first⟩ :: ⟨memory, middle, second⟩ :: rest) =
        asked (⟨memory, offset, whole⟩ :: rest) ∧
      stray (⟨memory, offset, first⟩ :: ⟨memory, middle, second⟩ :: rest) =
        stray (⟨memory, offset, whole⟩ :: rest) := by
  have hends₁ : offset.toNat + first.toNat ≤ memory.size := by omega
  have hends₂ : middle.toNat + second.toNat ≤ memory.size := by omega
  have hpart₁ : Request.content ⟨memory, offset, first⟩ = .ok _ := readRange_of_inside hends₁
  have hpart₂ : Request.content ⟨memory, middle, second⟩ = .ok _ := readRange_of_inside hends₂
  have hall : Request.content ⟨memory, offset, whole⟩ = .ok _ := readRange_of_inside hinside
  constructor
  · rw [hmiddle] at hfeed
    rw [asked_cons_of_ok hpart₁, asked_cons_of_ok hpart₂, asked_cons_of_ok hall,
      Request.lines_of_ok hpart₁, Request.lines_of_ok hpart₂, Request.lines_of_ok hall, hwhole,
      linesOf_slice_add hfirst hfeed, hmiddle, List.append_assoc]
  · rw [stray_cons_of_ok hpart₁, stray_cons_of_ok hpart₂, stray_cons_of_ok hall]

/-- **A request may be made in two parts that meet behind a line feed.** Whatever console, limit and
count the host has, asking for the first part and then, if that is served, for the second leaves
the host that asking for the whole leaves, console, count and fault alike; and what is asked for
afterwards cannot tell the difference. -/
theorem serve_split (console : Console) (limit : Option Nat) (written : Nat) (memory : Memory)
    (offset first second middle whole : UInt64) (hfirst : 1 ≤ first.toNat)
    (hmiddle : middle.toNat = offset.toNat + first.toNat)
    (hwhole : whole.toNat = first.toNat + second.toNat)
    (hinside : offset.toNat + whole.toNat ≤ memory.size)
    (hfeed : memory.byte (middle.toNat - 1) = 0x0A) :
    let h : Host := ⟨console, limit, written, none⟩
    h.serve [⟨memory, offset, first⟩, ⟨memory, middle, second⟩] =
        h.answer ⟨memory, offset, whole⟩ ∧
      ∀ rest, h.serve (⟨memory, offset, first⟩ :: ⟨memory, middle, second⟩ :: rest) =
        h.serve (⟨memory, offset, whole⟩ :: rest) := by
  intro h
  have hn : h.fault = none := rfl
  -- serving is settled by the lines that are asked for and the first request outside
  have hserve : ∀ rest, h.serve (⟨memory, offset, first⟩ :: ⟨memory, middle, second⟩ :: rest) =
      h.serve (⟨memory, offset, whole⟩ :: rest) := by
    intro rest
    obtain ⟨hasked, hstray⟩ := asked_parts hfirst hmiddle hwhole hinside hfeed rest
    rw [Host.serve_eq _ hn, Host.serve_eq _ hn, hasked, hstray]
  refine ⟨?_, hserve⟩
  rw [hserve [], Host.serve_singleton]

/-- The limit falls between the two parts: the first is served and the second is refused. -/
theorem serve_split_at_limit :
    let memory : Memory := ⟨#[⟨#[97, 10, 98, 10]⟩], 4, 0, none⟩
    let h : Host := ⟨.new none, some 1, 0, none⟩
    memory.byte 1 = 0x0A ∧
      h.serve [⟨memory, 0, 2⟩, ⟨memory, 2, 2⟩] = h.answer ⟨memory, 0, 4⟩ ∧
      (h.answer ⟨memory, 0, 2⟩).fault = none ∧
      (h.answer ⟨memory, 0, 4⟩).fault = some (.outputLimit 1) ∧
      (h.answer ⟨memory, 0, 4⟩).console.lines = ["a"] := by
  intro memory h
  have hfeed : memory.byte 1 = 0x0A := by decide +kernel
  refine ⟨hfeed, ?_, by decide +kernel, by decide +kernel, by decide +kernel⟩
  exact (serve_split (.new none) (some 1) 0 memory 0 2 2 2 4 (by decide) rfl rfl (by decide) hfeed).1

end Playground.Sandbox
