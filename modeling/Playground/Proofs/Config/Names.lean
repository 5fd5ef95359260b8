import Playground.Config.Basic
import Playground.Proofs.Files.Path

/-!
# Settings that were validated

What a compiler configuration that was accepted promises to whoever uses it.

* `Accepted` — there is a program, and the two files have names that stay in their directory and
  differ.
* `accepted_of_validateCompiler` — validation accepts nothing else.
-/

set_option autoImplicit false

namespace Playground

namespace Config

open Playground.Path

theorem require_eq_ok {condition : Bool} {v : Violation}
    (h : require condition v = .ok ()) : condition = true := by
  unfold require at h
  split at h
  · assumption
  · cases h

/-- Of two checks in a row both succeed. -/
theorem both_ok {first second : Except Violation Unit} (h : (do first; second) = .ok ()) :
    first = .ok () ∧ second = .ok () := by
  cases first with
  | error v => cases h
  | ok u => exact ⟨rfl, h⟩

theorem of_validateName {field : NameField} {name : String}
    (h : validateName field name = .ok ()) : Plain name ∧ name ≠ ".." := by
  obtain ⟨hempty, hsafe⟩ := both_ok h
  have hempty := require_eq_ok hempty
  have hsafe := require_eq_ok hsafe
  rw [isUnsafeName, Bool.not_eq_true', Bool.or_eq_false_iff] at hsafe
  refine ⟨⟨?_, ?_⟩, ?_⟩
  · rintro rfl
    cases hempty
  · intro hslash
    rw [List.contains_eq_mem, decide_eq_false_iff_not] at hsafe
    exact hsafe.1 hslash
  · rintro rfl
    cases hsafe.2

/-- What an accepted compiler configuration promises. -/
structure Accepted (c : CompilerConfig) : Prop where
  program : ∃ name arguments, c.command = name :: arguments ∧ name ≠ ""
  source : Plain c.sourceName ∧ c.sourceName ≠ ".."
  output : Plain c.outputName ∧ c.outputName ≠ ".."
  distinct : c.sourceName ≠ c.outputName

theorem accepted_of_validateCompiler {c : CompilerConfig} (h : validateCompiler c = .ok ()) :
    Accepted c := by
  obtain ⟨hcommand, h⟩ := both_ok h
  obtain ⟨hsource, h⟩ := both_ok h
  obtain ⟨houtput, hdistinct⟩ := both_ok h
  refine ⟨?_, of_validateName hsource, of_validateName houtput, ?_⟩
  · have hcommand := require_eq_ok hcommand
    cases hc : c.command with
    | nil => rw [hc] at hcommand; cases hcommand
    | cons name arguments =>
      refine ⟨name, arguments, rfl, ?_⟩
      rintro rfl
      rw [hc] at hcommand
      cases hcommand
  · exact bne_iff_ne.mp (require_eq_ok hdistinct)

end Config

end Playground
