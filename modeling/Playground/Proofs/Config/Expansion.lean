import Playground.Config.Basic
import Mathlib.Data.List.Infix

/-!
# Placeholders that are replaced one after the other

The placeholders of an argument are replaced in two passes: the second goes over a text that holds
the name of the source already. It takes for a placeholder whatever is spelled like one, be it in
the argument, in the name, or where the two meet. A single pass over the argument would replace what
stands in the argument and nothing else.

* `parts`, `onePass` — an argument as it is read in one pass, and what one pass makes of it.
* `Spells` — with the name of the source put in, other characters spell the second placeholder.
* `expandArgument_eq_onePass_iff` — the two passes are one, unless `Spells`.
* `Apart` — a name that has nothing in common with the second placeholder never `Spells` it.
* `expanded_in_one_pass` — what that means for a command.
* `source_replaced_by_output` — an accepted configuration with a name that is a placeholder.
-/

set_option autoImplicit false

namespace Playground

namespace Config

/-! ## Replacing -/

theorem afterPrefix_eq_some_iff {pattern text rest : List Char} :
    afterPrefix pattern text = some rest ↔ text = pattern ++ rest := by
  induction pattern generalizing text with
  | nil => simp [afterPrefix]
  | cons p pattern ih =>
    cases text with
    | nil => simp [afterPrefix]
    | cons c text =>
      rw [afterPrefix]
      split
      · rename_i heq
        rw [ih, heq, List.cons_append, List.cons.injEq, and_iff_right rfl]
      · rename_i hne
        constructor
        · intro h
          cases h
        · intro h
          exact absurd (List.cons.inj h).1.symm hne

theorem afterPrefix_eq_none_iff {pattern text : List Char} :
    afterPrefix pattern text = none ↔ ¬ pattern <+: text := by
  rw [Option.eq_none_iff_forall_ne_some]
  constructor
  · rintro h ⟨rest, hrest⟩
    exact h rest (afterPrefix_eq_some_iff.mpr hrest.symm)
  · intro h rest hrest
    exact h ⟨rest, (afterPrefix_eq_some_iff.mp hrest).symm⟩

variable {first : Char} {others pattern replacement xs ys text : List Char}

theorem replaceAll_nil (pattern replacement : List Char) :
    replaceAll pattern replacement [] = [] := by
  rw [replaceAll]

theorem replaceAll_pattern_append (first : Char) (others replacement rest : List Char) :
    replaceAll (first :: others) replacement (first :: others ++ rest) =
      replacement ++ replaceAll (first :: others) replacement rest := by
  have hsome : afterPrefix (first :: others) (first :: (others ++ rest)) = some rest :=
    afterPrefix_eq_some_iff.mpr rfl
  rw [List.cons_append, replaceAll]
  split
  · rename_i found hfound
    obtain rfl : found = rest := Option.some_inj.mp (hfound.symm.trans hsome)
    rw [dif_neg (List.cons_ne_nil _ _)]
  · rename_i hnone
    rw [hsome] at hnone
    cases hnone

theorem replaceAll_cons {c : Char} (h : ¬ pattern <+: c :: text) :
    replaceAll pattern replacement (c :: text) = c :: replaceAll pattern replacement text := by
  have hnone := afterPrefix_eq_none_iff.mpr h
  rw [replaceAll]
  split
  · rename_i hsome
    rw [hnone] at hsome
    cases hsome
  · rfl

/-- A pattern does not occur where its first character does not. -/
theorem replaceAll_append_of_not_mem (h : first ∉ xs) (ys : List Char) :
    replaceAll (first :: others) replacement (xs ++ ys) =
      xs ++ replaceAll (first :: others) replacement ys := by
  induction xs with
  | nil => rfl
  | cons x xs ih =>
    rw [List.mem_cons, not_or] at h
    have hno : ¬ first :: others <+: x :: (xs ++ ys) := fun hp => h.1 (List.cons_prefix_cons.mp hp).1
    rw [List.cons_append, replaceAll_cons hno, ih h.2, List.cons_append]

/-- A pattern that is replaced by itself stays. -/
theorem replaceAll_self (first : Char) (others text : List Char) :
    replaceAll (first :: others) (first :: others) text = text := by
  fun_induction replaceAll (first :: others) (first :: others) text with
  | case1 => rfl
  | case2 c text rest hsome hp => exact absurd hp (List.cons_ne_nil _ _)
  | case3 c text rest hsome hp ih => rw [ih, ← afterPrefix_eq_some_iff.mp hsome]
  | case4 c text hnone ih => rw [ih]

/-! ## One pass -/

/-- What an argument is made of: placeholders, and other characters. -/
inductive Part where
  | source
  | output
  | other (c : Char)
  deriving DecidableEq, Repr

/-- An argument as it is read from left to right. -/
def parts (text : List Char) : List Part :=
  match text with
  | [] => []
  | c :: text =>
    match _hs : afterPrefix sourcePlaceholder (c :: text) with
    | some rest => .source :: parts rest
    | none =>
      match _ho : afterPrefix outputPlaceholder (c :: text) with
      | some rest => .output :: parts rest
      | none => .other c :: parts text
termination_by text.length
decreasing_by
  · have hlength := afterPrefix_length _hs
    have hpositive : 0 < sourcePlaceholder.length := by decide
    omega
  · have hlength := afterPrefix_length _ho
    have hpositive : 0 < outputPlaceholder.length := by decide
    omega
  · simp

/-- A part with the names in place of the placeholders. -/
def Part.fill (source output : List Char) : Part → List Char
  | .source => source
  | .output => output
  | .other c => [c]

/-- An argument with both placeholders replaced in one pass from left to right. What is put in for
one is not looked at again. -/
def onePass (source output argument : String) : String :=
  String.ofList ((parts argument.toList).flatMap (Part.fill source.toList output.toList))

/-- The second placeholder behind its brace. -/
def outputRest : List Char := outputPlaceholder.tail

theorem outputPlaceholder_eq : outputPlaceholder = '{' :: outputRest := rfl

theorem brace_not_mem_outputRest : '{' ∉ outputRest := by decide

/-- The first of the two passes leaves the second placeholder as it is. -/
theorem replaceAll_source (source text : List Char) :
    replaceAll sourcePlaceholder source text =
      (parts text).flatMap (Part.fill source outputPlaceholder) := by
  fun_induction parts text with
  | case1 => exact replaceAll_nil _ _
  | case2 c text rest hsource ih =>
    rw [afterPrefix_eq_some_iff.mp hsource, List.flatMap_cons, ← ih]
    exact replaceAll_pattern_append '{' sourcePlaceholder.tail source rest
  | case3 c text hsource rest houtput ih =>
    have hno := afterPrefix_eq_none_iff.mp hsource
    have htext := afterPrefix_eq_some_iff.mp houtput
    rw [htext, outputPlaceholder_eq, List.cons_append] at hno
    rw [htext, List.flatMap_cons, ← ih, outputPlaceholder_eq, List.cons_append, replaceAll_cons hno]
    exact congrArg _ (replaceAll_append_of_not_mem brace_not_mem_outputRest rest)
  | case4 c text hsource houtput ih =>
    rw [replaceAll_cons (afterPrefix_eq_none_iff.mp hsource), List.flatMap_cons, ih]
    rfl

/-! ## Two passes -/

/-- What the second pass finds: characters, and the placeholders that the argument holds. -/
inductive Token where
  | char (c : Char)
  | placeholder
  deriving DecidableEq, Repr

def Token.fill (output : List Char) : Token → List Char
  | .char c => [c]
  | .placeholder => output

def Part.tokens (source : List Char) : Part → List Token
  | .source => source.map .char
  | .output => [.placeholder]
  | .other c => [.char c]

/-- An argument with the name of the source put in. -/
def tokens (source text : List Char) : List Token := (parts text).flatMap (Part.tokens source)

theorem flatMap_fill_char (output text : List Char) :
    (text.map Token.char).flatMap (Token.fill output) = text := by
  rw [List.flatMap_map]
  exact List.flatMap_singleton' text

theorem fill_tokens (source output : List Char) (part : Part) :
    (part.tokens source).flatMap (Token.fill output) = part.fill source output := by
  cases part with
  | source => exact flatMap_fill_char output source
  | output => exact List.append_nil output
  | other c => rfl

theorem flatMap_tokens (source output text : List Char) :
    (tokens source text).flatMap (Token.fill output) =
      (parts text).flatMap (Part.fill source output) := by
  rw [tokens, List.flatMap_assoc]
  simp only [fill_tokens]

/-- Characters that spell the second placeholder. -/
def spelled : List Token := outputPlaceholder.map .char

theorem length_spelled : spelled.length = outputPlaceholder.length := List.length_map _

theorem spelled_prefix_cons_iff {u : Token} {us : List Token} :
    spelled <+: u :: us ↔ .char '{' = u ∧ outputRest.map .char <+: us := by
  rw [spelled, outputPlaceholder_eq, List.map_cons, List.cons_prefix_cons]

/-- Characters that are spelled out in the text are characters, unless they begin a placeholder. -/
theorem prefix_of_fill {us : List Token} (hbrace : '{' ∉ xs)
    (h : xs <+: us.flatMap (Token.fill outputPlaceholder)) : xs.map Token.char <+: us := by
  induction xs generalizing us with
  | nil => exact List.nil_prefix
  | cons x xs ih =>
    rw [List.mem_cons, not_or] at hbrace
    cases us with
    | nil => cases List.prefix_nil.mp h
    | cons u us =>
      cases u with
      | char c =>
        obtain ⟨hx, hrest⟩ := List.cons_prefix_cons.mp h
        rw [hx, List.map_cons, List.cons_prefix_cons]
        exact ⟨rfl, ih hbrace.2 hrest⟩
      | placeholder =>
        rw [List.flatMap_cons, Token.fill, outputPlaceholder_eq, List.cons_append,
          List.cons_prefix_cons] at h
        exact absurd h.1.symm hbrace.1

theorem spelled_of_placeholder {c : Char} {us : List Token}
    (h : outputPlaceholder <+: c :: us.flatMap (Token.fill outputPlaceholder)) :
    spelled <+: .char c :: us := by
  have hrest := h
  rw [outputPlaceholder_eq, List.cons_prefix_cons, ← outputPlaceholder_eq] at hrest
  rw [spelled_prefix_cons_iff, hrest.1]
  exact ⟨rfl, prefix_of_fill brace_not_mem_outputRest hrest.2⟩

/-- What the second pass takes its text for: characters that spell a placeholder are one. -/
def reread (us : List Token) : List Token :=
  match us with
  | [] => []
  | u :: us =>
    if spelled <+: u :: us then .placeholder :: reread (us.drop outputRest.length)
    else u :: reread us
termination_by us.length

theorem eq_spelled_append {u : Token} {us : List Token} (h : spelled <+: u :: us) :
    u :: us = spelled ++ us.drop outputRest.length := by
  obtain ⟨rest, hrest⟩ := h
  have hdrop : (u :: us).drop spelled.length = rest := by rw [← hrest, List.drop_left]
  have hlength : spelled.length = outputRest.length + 1 := by
    rw [length_spelled, outputPlaceholder_eq, List.length_cons]
  rw [hlength, List.drop_succ_cons] at hdrop
  rw [← hrest, hdrop]

/-- The text of characters that spell the placeholder is the placeholder, whatever is put in for
those that the argument holds. -/
theorem fill_of_spelled {u : Token} {us : List Token} (h : spelled <+: u :: us)
    (output : List Char) :
    (u :: us).flatMap (Token.fill output) =
      outputPlaceholder ++ (us.drop outputRest.length).flatMap (Token.fill output) := by
  rw [eq_spelled_append h, List.flatMap_append, spelled, flatMap_fill_char]

theorem spelled_not_infix_nil : ¬ spelled <:+: [] := by
  rw [List.infix_nil, ← List.length_eq_zero_iff, length_spelled]
  decide

/-- The second pass puts the name of the artifact in for whatever it takes for a placeholder. -/
theorem replaceAll_output (output : List Char) (us : List Token) :
    replaceAll outputPlaceholder output (us.flatMap (Token.fill outputPlaceholder)) =
      (reread us).flatMap (Token.fill output) := by
  fun_induction reread us with
  | case1 => exact replaceAll_nil _ _
  | case2 u us hspelled ih =>
    rw [fill_of_spelled hspelled, List.flatMap_cons, ← ih]
    exact replaceAll_pattern_append '{' outputRest output _
  | case3 u us hother ih =>
    rw [List.flatMap_cons, List.flatMap_cons, ← ih]
    cases u with
    | char c => exact replaceAll_cons fun h => hother (spelled_of_placeholder h)
    | placeholder => exact replaceAll_pattern_append '{' outputRest output _

/-- Where nothing else spells the placeholder the second pass finds what the argument holds. -/
theorem reread_eq_self {us : List Token} (h : ¬ spelled <:+: us) : reread us = us := by
  fun_induction reread us with
  | case1 => rfl
  | case2 u us hspelled ih => exact absurd hspelled.isInfix h
  | case3 u us hother ih =>
    rw [List.infix_cons_iff, not_or] at h
    rw [ih h.2]

/-- Each occurrence that the argument does not hold makes the same difference in length. -/
theorem length_reread (output : List Char) (us : List Token) :
    ∃ n, ((reread us).flatMap (Token.fill output)).length + n * outputPlaceholder.length =
        (us.flatMap (Token.fill output)).length + n * output.length ∧
      (n = 0 → ¬ spelled <:+: us) := by
  fun_induction reread us with
  | case1 => exact ⟨0, by rw [Nat.zero_mul, Nat.zero_mul], fun _ => spelled_not_infix_nil⟩
  | case2 u us hspelled ih =>
    obtain ⟨n, hn, -⟩ := ih
    refine ⟨n + 1, ?_, fun hzero => absurd hzero (Nat.succ_ne_zero n)⟩
    rw [fill_of_spelled hspelled, List.flatMap_cons, List.length_append, List.length_append,
      Nat.succ_mul, Nat.succ_mul]
    have hput : (Token.fill output .placeholder).length = output.length := rfl
    omega
  | case3 u us hother ih =>
    obtain ⟨n, hn, hzero⟩ := ih
    refine ⟨n, ?_, fun h => ?_⟩
    · rw [List.flatMap_cons, List.flatMap_cons, List.length_append, List.length_append]
      omega
    · rw [List.infix_cons_iff, not_or]
      exact ⟨hother, hzero h⟩

/-- A name of the length of the placeholder is told from it where it is put in first. -/
theorem eq_placeholder_of_reread {output : List Char} {us : List Token}
    (hlength : output.length = outputPlaceholder.length)
    (h : (reread us).flatMap (Token.fill output) = us.flatMap (Token.fill output)) :
    output = outputPlaceholder ∨ ¬ spelled <:+: us := by
  fun_induction reread us with
  | case1 => exact .inr spelled_not_infix_nil
  | case2 u us hspelled ih =>
    rw [fill_of_spelled hspelled, List.flatMap_cons] at h
    exact .inl (List.append_inj h hlength).1
  | case3 u us hother ih =>
    rw [List.flatMap_cons, List.flatMap_cons] at h
    refine (ih (List.append_cancel_left h)).imp_right fun hrest => ?_
    rw [List.infix_cons_iff, not_or]
    exact ⟨hother, hrest⟩

/-- The second pass does what it should, unless other characters spell the placeholder. -/
theorem reread_fill_iff (output : List Char) (us : List Token) :
    (reread us).flatMap (Token.fill output) = us.flatMap (Token.fill output) ↔
      output = outputPlaceholder ∨ ¬ spelled <:+: us := by
  constructor
  · intro h
    obtain ⟨n, hn, hzero⟩ := length_reread output us
    rw [h, Nat.add_right_inj] at hn
    rcases Nat.eq_zero_or_pos n with h0 | hpositive
    · exact .inr (hzero h0)
    · exact eq_placeholder_of_reread (Nat.eq_of_mul_eq_mul_left hpositive hn).symm h
  · rintro (rfl | h)
    · rw [← replaceAll_output]
      exact replaceAll_self '{' outputRest _
    · rw [reread_eq_self h]

/-- With the name of the source put in, characters that are no placeholder of the argument spell the
second placeholder. -/
def Spells (source argument : String) : Prop :=
  spelled <:+: tokens source.toList argument.toList

instance (source argument : String) : Decidable (Spells source argument) :=
  inferInstanceAs (Decidable (spelled <:+: tokens source.toList argument.toList))

/-- **The two passes are one**, unless the text that is put in first is looked at again. -/
theorem expandArgument_eq_onePass_iff (source output argument : String) :
    expandArgument source output argument = onePass source output argument ↔
      output = "{output}" ∨ ¬ Spells source argument := by
  have houtput : output.toList = outputPlaceholder ↔ output = "{output}" := String.toList_inj
  rw [expandArgument, onePass, replaceAll_source, ← flatMap_tokens, ← flatMap_tokens,
    replaceAll_output, String.ofList_inj, reread_fill_iff, houtput, Spells]

/-- Where a name meets what stands around it in the argument. -/
example : Spells "put" "\x7bout{source}\x7d" := by decide +kernel

/-! ## Names that are safe -/

/-- A name that has nothing in common with the second placeholder: neither holds the other, and
neither ends as the other begins. -/
structure Apart (name : List Char) : Prop where
  not_part : ¬ name <:+: outputPlaceholder
  not_inside : ¬ outputPlaceholder <:+: name
  begins : ∀ xs, xs <+: name → xs <:+ outputPlaceholder → xs = []
  ends : ∀ xs, xs <:+ name → xs <+: outputPlaceholder → xs = []

instance (name : List Char) : Decidable (Apart name) :=
  decidable_of_iff (¬ name <:+: outputPlaceholder ∧ ¬ outputPlaceholder <:+: name ∧
      (∀ xs ∈ name.inits, xs <:+ outputPlaceholder → xs = []) ∧
      ∀ xs ∈ name.tails, xs <+: outputPlaceholder → xs = [])
    ⟨fun ⟨h₁, h₂, h₃, h₄⟩ => ⟨h₁, h₂, fun xs hxs => h₃ xs ((List.mem_inits _ _).mpr hxs),
        fun xs hxs => h₄ xs ((List.mem_tails _ _).mpr hxs)⟩,
      fun h => ⟨h.not_part, h.not_inside, fun xs hxs => h.begins xs ((List.mem_inits _ _).mp hxs),
        fun xs hxs => h.ends xs ((List.mem_tails _ _).mp hxs)⟩⟩

theorem char_injective : Function.Injective Token.char := fun _ _ h => Token.char.inj h

/-- The name of the source spells the placeholder by itself where it holds it. -/
theorem spelled_infix_map_iff {name : List Char} :
    spelled <:+: name.map Token.char ↔ outputPlaceholder <:+: name := by
  rw [spelled, List.infix_map_iff]
  constructor
  · rintro ⟨inside, hinside, hmap⟩
    rwa [List.map_injective_iff.mpr char_injective hmap]
  · exact fun hinside => ⟨_, hinside, rfl⟩

/-- The end of the placeholder stands among the tokens only where it stands in the argument. -/
theorem prefix_of_tokens {name : List Char} (h : Apart name)
    (hsuffix : xs <:+ outputPlaceholder) :
    xs.map Token.char <+: tokens name text → xs <+: text := by
  rw [tokens]
  fun_induction parts text generalizing xs with
  | case1 =>
    intro hfront
    rw [List.flatMap_nil, List.prefix_nil, List.map_eq_nil_iff] at hfront
    rw [hfront]
  | case2 c text rest hsource ih =>
    intro hfront
    rw [List.flatMap_cons, Part.tokens] at hfront
    rcases List.prefix_or_prefix_of_prefix hfront (List.prefix_append _ _) with hp | hp
    · -- the name would begin as the placeholder ends
      rw [List.prefix_map_iff_of_injective char_injective] at hp
      rw [h.begins xs hp hsuffix]
      exact List.nil_prefix
    · -- the name would be a part of the placeholder
      rw [List.prefix_map_iff_of_injective char_injective] at hp
      exact absurd (hp.isInfix.trans hsuffix.isInfix) h.not_part
  | case3 c text hsource rest houtput ih =>
    intro hfront
    cases xs with
    | nil => exact List.nil_prefix
    | cons x xs =>
      rw [List.flatMap_cons, Part.tokens, List.map_cons, List.singleton_append,
        List.cons_prefix_cons] at hfront
      cases hfront.1
  | case4 c text hsource houtput ih =>
    intro hfront
    cases xs with
    | nil => exact List.nil_prefix
    | cons x xs =>
      rw [List.flatMap_cons, Part.tokens, List.map_cons, List.singleton_append,
        List.cons_prefix_cons] at hfront
      have hrest : xs <:+ outputPlaceholder := (List.suffix_cons x xs).trans hsuffix
      rw [List.cons_prefix_cons]
      exact ⟨char_injective hfront.1, ih hrest hfront.2⟩

/-- **A name that has nothing in common with the placeholder is safe in every argument.** -/
theorem Apart.not_spells {source : String} (h : Apart source.toList) (argument : String) :
    ¬ Spells source argument := by
  rw [Spells, tokens]
  fun_induction parts argument.toList with
  | case1 => exact spelled_not_infix_nil
  | case2 c text rest hsource ih =>
    rw [List.flatMap_cons, Part.tokens, List.infix_append_iff_ne_nil, not_or, not_or]
    refine ⟨fun hinside => h.not_inside (spelled_infix_map_iff.mp hinside), ih, ?_⟩
    -- the placeholder would begin as the name ends
    rintro ⟨us, vs, hne, -, happend, hsuffix, -⟩
    obtain ⟨xs, ys, hxy, rfl, -⟩ := List.map_eq_append_iff.mp happend
    rw [List.suffix_map_iff_of_injective char_injective] at hsuffix
    rw [h.ends xs hsuffix ⟨ys, hxy.symm⟩] at hne
    exact hne rfl
  | case3 c text hsource rest houtput ih =>
    rw [List.flatMap_cons, Part.tokens, List.singleton_append, List.infix_cons_iff, not_or]
    refine ⟨fun hfront => ?_, ih⟩
    cases (spelled_prefix_cons_iff.mp hfront).1
  | case4 c text hsource houtput ih =>
    rw [List.flatMap_cons, Part.tokens, List.singleton_append, List.infix_cons_iff, not_or]
    refine ⟨fun hfront => ?_, ih⟩
    have hrest : outputRest <:+ outputPlaceholder := List.suffix_cons '{' outputRest
    obtain ⟨hbrace, hfront⟩ := spelled_prefix_cons_iff.mp hfront
    have htext := prefix_of_tokens h hrest hfront
    apply afterPrefix_eq_none_iff.mp houtput
    rw [outputPlaceholder_eq, List.cons_prefix_cons]
    exact ⟨char_injective hbrace, htext⟩

/-! ## Commands -/

theorem parts_source : parts "{source}".toList = [.source] := by decide +kernel

/-- An argument that is a placeholder and nothing else becomes the name, unless that is changed in
the second pass. -/
theorem expandArgument_source_iff (source output : String) :
    expandArgument source output "{source}" = source ↔
      output = "{output}" ∨ ¬ outputPlaceholder <:+: source.toList := by
  have hone : onePass source output "{source}" = source := by
    rw [onePass, parts_source, List.flatMap_singleton, Part.fill, String.ofList_toList]
  have hspells : Spells source "{source}" ↔ outputPlaceholder <:+: source.toList := by
    rw [Spells, tokens, parts_source, List.flatMap_singleton, Part.tokens, spelled_infix_map_iff]
  have hiff := expandArgument_eq_onePass_iff source output "{source}"
  rwa [hone, hspells] at hiff

/-- **When a command is handed the names that are really used.** An argument is what one pass makes
of it exactly if the text put in for the source is not looked at again; a name that has nothing in
common with the second placeholder never is, and then the whole command is what one pass makes of
it. -/
theorem expanded_in_one_pass (c : CompilerConfig) :
    (∀ (i : Nat) (argument : String), c.command[i]? = some argument →
      ∃ expanded, c.expandedCommand[i]? = some expanded ∧
        (expanded = onePass c.sourceName c.outputName argument ↔
          c.outputName = "{output}" ∨ ¬ Spells c.sourceName argument) ∧
        (argument = "{source}" → (expanded = c.sourceName ↔
          c.outputName = "{output}" ∨ ¬ outputPlaceholder <:+: c.sourceName.toList))) ∧
      (Apart c.sourceName.toList →
        c.expandedCommand = c.command.map (onePass c.sourceName c.outputName)) := by
  constructor
  · intro i argument hargument
    refine ⟨expandArgument c.sourceName c.outputName argument, ?_,
      expandArgument_eq_onePass_iff _ _ _, ?_⟩
    · rw [CompilerConfig.expandedCommand, expandCommand, List.getElem?_map, hargument,
        Option.map_some]
    · rintro rfl
      exact expandArgument_source_iff _ _
  · intro hapart
    rw [CompilerConfig.expandedCommand, expandCommand, List.map_inj_left]
    intro argument _
    exact (expandArgument_eq_onePass_iff _ _ _).mpr (.inr (hapart.not_spells argument))

/-- The names that hold without a file are safe. -/
theorem expanded_in_one_pass_default :
    default.compiler.command[1]? = some "{source}" ∧ Apart default.compiler.sourceName.toList ∧
      default.compiler.expandedCommand = ["halcyonc", "main.hc", "-o", "main.wasm"] := by
  have hapart : Apart default.compiler.sourceName.toList := by decide +kernel
  refine ⟨rfl, hapart, ?_⟩
  rw [(expanded_in_one_pass default.compiler).2 hapart]
  decide +kernel

/-- A configuration in which the name of the source is the second placeholder. -/
def placeholderNamed : CompilerConfig :=
  ⟨["halcyonc", "{source}", "-o", "{output}"], "{output}", "main.wasm", []⟩

/-- **An accepted name can be a placeholder**, and the compiler is handed another. -/
theorem source_replaced_by_output :
    validateCompiler placeholderNamed = .ok () ∧
      placeholderNamed.expandedCommand = ["halcyonc", "main.wasm", "-o", "main.wasm"] ∧
      placeholderNamed.command.map (onePass placeholderNamed.sourceName placeholderNamed.outputName) =
        ["halcyonc", "{output}", "-o", "main.wasm"] := by
  refine ⟨rfl, ?_, ?_⟩
  · decide +kernel
  · decide +kernel

end Config

end Playground
