/-!
# Checks one after another

Facts on results that are an error or a value, for lists of checks that stop at the first error.

* `ok_of_bind`, `ok_of_forM` — where all of it succeeds, each step does.
* `foldlM_preserves` — what every step keeps holds at the end.
* `ErrorsIn` — the errors are all of a kind; they are if those of every step are.
-/

set_option autoImplicit false

namespace Playground.Wasm

variable {α β ε : Type}

theorem ok_of_bind {x : Except ε α} {f : α → Except ε β} {b : β} (h : x >>= f = .ok b) :
    ∃ a, x = .ok a ∧ f a = .ok b := by
  cases x with
  | error e => cases h
  | ok a => exact ⟨a, rfl, h⟩

theorem ok_of_forM {f : α → Except ε Unit} {xs : List α} :
    forM xs f = .ok ⟨⟩ → ∀ x ∈ xs, f x = .ok ⟨⟩ := by
  induction xs with
  | nil => intro _ x hx; cases hx
  | cons y ys ih =>
    intro h x hx
    rw [List.forM_cons] at h
    obtain ⟨⟨⟩, hy, hys⟩ := ok_of_bind h
    obtain rfl | hx := List.mem_cons.mp hx
    · exact hy
    · exact ih hys x hx

/-- What every single step keeps holds after all of them. -/
theorem foldlM_preserves {P : β → Prop} {f : β → α → Except ε β}
    (hstep : ∀ b x b', P b → f b x = .ok b' → P b') (xs : List α) : ∀ {b b' : β},
    P b → xs.foldlM f b = .ok b' → P b' := by
  induction xs with
  | nil =>
    intro b b' hb h
    cases h
    exact hb
  | cons x xs ih =>
    intro b b' hb h
    rw [List.foldlM_cons] at h
    obtain ⟨next, hx, h⟩ := ok_of_bind h
    exact ih (hstep b x next hb hx) h

/-- If something fails, it fails with an error of the kind `P`. -/
def ErrorsIn (P : ε → Prop) (x : Except ε α) : Prop := ∀ e, x = .error e → P e

namespace ErrorsIn

variable {P : ε → Prop}

theorem ok (a : α) : ErrorsIn P (.ok a) := nofun

theorem error {e : ε} (h : P e) : ErrorsIn P (.error e : Except ε α) :=
  fun _ heq => Except.error.inj heq ▸ h

theorem bind {x : Except ε α} {f : α → Except ε β} (hx : ErrorsIn P x)
    (hf : ∀ a, ErrorsIn P (f a)) : ErrorsIn P (x >>= f) := by
  cases x with
  | error e => exact fun e' h => hx e' (by cases h; rfl)
  | ok a => exact hf a

theorem foldlM {f : β → α → Except ε β} (hf : ∀ b a, ErrorsIn P (f b a)) (xs : List α) :
    ∀ b, ErrorsIn P (xs.foldlM f b) := by
  induction xs with
  | nil => exact fun b => .ok b
  | cons x xs ih =>
    intro b
    rw [List.foldlM_cons]
    exact (hf b x).bind ih

theorem forM {f : α → Except ε Unit} (hf : ∀ a, ErrorsIn P (f a)) (xs : List α) :
    ErrorsIn P (xs.forM f) := by
  induction xs with
  | nil => exact .ok _
  | cons x xs ih => exact (hf x).bind fun _ => ih

theorem mapM {f : α → Except ε β} (hf : ∀ a, ErrorsIn P (f a)) (xs : Array α) :
    ErrorsIn P (xs.mapM f) := by
  rw [Array.mapM_eq_foldlM, ← Array.foldlM_toList]
  exact .foldlM (fun b a => (hf a).bind fun c => .ok _) _ _

end ErrorsIn

end Playground.Wasm
