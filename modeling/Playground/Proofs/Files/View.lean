import Playground.Files.View
import Playground.Proofs.Files.Canonical

/-!
# What a process is told of a file

A process that finds a file asks for its canonical place. It is told, unless that is refused or a
place on the way is too deep.

* `View.Told`, `View.Untold` — when a process is told a canonical place, and why it is not.
* `View.canonicalize_eq_ok_iff`, `View.canonicalize_eq_error_iff` — it is told then, and only then.
-/

set_option autoImplicit false

namespace Playground

namespace Files

namespace View

open Files.Tree

variable {v : View} {path : String} {place : Place} {e : Entry}

/-- The canonical place of a path is told: nothing is refused, and no place on the way is too deep. -/
structure Told (v : View) (path : String) (place : Place) (e : Entry) : Prop where
  answered : v.refusals.canonical path = none
  way : ∀ q, v.tree.OnWay v.here path q → Shallow q
  canonical : v.tree.Canonical place e

/-- The canonical place of a path is not told. -/
inductive Untold (v : View) (path : String) : FileError → Prop
  | refused {error : FileError} (refused : v.refusals.canonical path = some error) :
      Untold v path error
  | deep {q : Place} (answered : v.refusals.canonical path = none)
      (way : v.tree.OnWay v.here path q) (deep : ¬ Shallow q) : Untold v path .nameTooLong

theorem tree_stat_of_stat (h : v.stat path = .ok (place, e)) :
    v.tree.stat v.here path = .ok (place, e) := by
  rw [stat] at h
  split at h
  · cases h
  · exact h

/-- A file is canonicalized or not, and either has its reason. -/
theorem canonicalize_cases (hwell : v.tree.WellFormed) (hnamed : v.tree.Named)
    (hfound : v.stat path = .ok (place, e)) (hfile : e.isFile) :
    v.Told path place e ∧ v.canonicalize path = .ok place ∨
      ∃ error, v.Untold path error ∧ v.canonicalize path = .error error := by
  obtain ⟨hdirectory, hcontent⟩ := Entry.isContent_of_isFile hfile
  have htree := tree_stat_of_stat hfound
  cases hrefused : v.refusals.canonical path with
  | some error => exact .inr ⟨error, .refused hrefused, by rw [canonicalize, hrefused]⟩
  | none =>
    rcases Tree.canonicalize_cases htree hdirectory with
      ⟨hway, hshallow, hok⟩ | ⟨⟨q, hon, hdeep⟩, herror⟩
    · have hfind := (find?_of_stat htree hdirectory).1
      have hcanonical := canonical_of_find? hwell hnamed hfind hcontent hshallow
      refine .inl ⟨⟨hrefused, hway, hcanonical⟩, ?_⟩
      rw [canonicalize, hrefused]
      exact hok
    · refine .inr ⟨.nameTooLong, .deep hrefused hon hdeep, ?_⟩
      rw [canonicalize, hrefused]
      exact herror

theorem Told.not_untold (h : v.Told path place e) (error : FileError) : ¬ v.Untold path error := by
  rintro (hrefused | ⟨-, hon, hdeep⟩)
  · rw [h.answered] at hrefused
    cases hrefused
  · exact hdeep (h.way _ hon)

theorem Untold.unique {error other : FileError} (h : v.Untold path error)
    (h' : v.Untold path other) : error = other := by
  rcases h with hrefused | ⟨hanswered, -, -⟩ <;> rcases h' with hrefused' | ⟨hanswered', -, -⟩
  · exact Option.some.inj (hrefused.symm.trans hrefused')
  · rw [hanswered'] at hrefused
    cases hrefused
  · rw [hanswered] at hrefused'
    cases hrefused'
  · rfl

/-- **The canonical place of a file is told** if and only if nothing is in the way. -/
theorem canonicalize_eq_ok_iff (hwell : v.tree.WellFormed) (hnamed : v.tree.Named)
    (hfound : v.stat path = .ok (place, e)) (hfile : e.isFile) (canonical : Place) :
    v.canonicalize path = .ok canonical ↔ canonical = place ∧ v.Told path place e := by
  rcases canonicalize_cases hwell hnamed hfound hfile with ⟨htold, hok⟩ | ⟨error, huntold, herror⟩
  · rw [hok, Except.ok.injEq, eq_comm]
    exact ⟨fun h => ⟨h, htold⟩, And.left⟩
  · rw [herror]
    exact ⟨nofun, fun h => absurd huntold (h.2.not_untold error)⟩

/-- **It is not told** if and only if something is, which is then the reason. -/
theorem canonicalize_eq_error_iff (hwell : v.tree.WellFormed) (hnamed : v.tree.Named)
    (hfound : v.stat path = .ok (place, e)) (hfile : e.isFile) (error : FileError) :
    v.canonicalize path = .error error ↔ v.Untold path error := by
  rcases canonicalize_cases hwell hnamed hfound hfile with ⟨htold, hok⟩ | ⟨other, huntold, herror⟩
  · rw [hok]
    exact ⟨nofun, fun h => absurd h (htold.not_untold error)⟩
  · rw [herror, Except.error.injEq]
    exact ⟨fun h => h ▸ huntold, huntold.unique⟩

end View

end Files

end Playground
