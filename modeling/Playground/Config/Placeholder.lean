/-!
# Placeholders

A configured command names the two files of a compile by placeholders, which are replaced when the
command is run.

* `replaceAll` — every occurrence of a text replaced by another.
* `expandCommand` — a command with its placeholders replaced.
-/

set_option autoImplicit false

namespace Playground.Config

/-- The rest of a text behind a given beginning, if it begins so. -/
def afterPrefix (pattern text : List Char) : Option (List Char) :=
  match pattern, text with
  | [], text => some text
  | _ :: _, [] => none
  | p :: pattern, c :: text => if p = c then afterPrefix pattern text else none

theorem afterPrefix_length {pattern text rest : List Char}
    (h : afterPrefix pattern text = some rest) : rest.length + pattern.length = text.length := by
  induction pattern generalizing text with
  | nil => simp_all [afterPrefix]
  | cons p pattern ih =>
    cases text with
    | nil => simp [afterPrefix] at h
    | cons c text =>
      simp only [afterPrefix] at h
      split at h
      · simp [← ih h, Nat.add_assoc]
      · cases h

/-- Every occurrence of `pattern` replaced, from left to right; what was put in is not looked at
again. An empty pattern occurs nowhere. -/
def replaceAll (pattern replacement : List Char) (text : List Char) : List Char :=
  match text with
  | [] => []
  | c :: text =>
    match _h : afterPrefix pattern (c :: text) with
    | some rest =>
      if _hp : pattern = [] then c :: replaceAll pattern replacement text
      else replacement ++ replaceAll pattern replacement rest
    | none => c :: replaceAll pattern replacement text
termination_by text.length
decreasing_by
  · simp
  · have hl := afterPrefix_length _h
    have : 0 < pattern.length := List.length_pos_iff.2 _hp
    simp at hl ⊢
    omega
  · simp

/-- The placeholder of the file that holds the source. -/
def sourcePlaceholder : List Char := "{source}".toList

/-- The placeholder of the file that the compiler writes. -/
def outputPlaceholder : List Char := "{output}".toList

/-- An argument with the source placeholder replaced, and then the output placeholder. -/
def expandArgument (source output argument : String) : String :=
  String.ofList (replaceAll outputPlaceholder output.toList
    (replaceAll sourcePlaceholder source.toList argument.toList))

/-- A command with all placeholders replaced. -/
def expandCommand (source output : String) (command : List String) : List String :=
  command.map (expandArgument source output)

end Playground.Config
